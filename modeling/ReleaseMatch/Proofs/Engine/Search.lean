import ReleaseMatch.Pattern.Sample
import ReleaseMatch.Proofs.Engine.Run
set_option autoImplicit false

/-!
# Searching

A pattern read forwards is found in a text exactly when it matches at some place of the text. What a
node can match is given by its spans: the pairs of places between which some way through it leads.
-/
namespace ReleaseMatch.Pattern

def State.fresh (cs : List Char) (i : Nat) : State := ⟨Place.of cs i, [], none⟩

@[simp] theorem State.fresh_place (cs : List Char) (i : Nat) :
    (State.fresh cs i).place = Place.of cs i := rfl

@[simp] theorem State.fresh_at_of (cs : List Char) (i j : Nat) :
    (State.fresh cs i).at_ (Place.of cs j) = State.fresh cs j := rfl

theorem State.fresh_within {cs : List Char} {i : Nat} (h : i ≤ cs.length) :
    (State.fresh cs i).place.Within cs :=
  Place.within_of h

def only (p : Place) : Next := fun t => if t.place = p then some t else none

theorem only_isSome_iff {p : Place} {t : State} : (only p t).isSome ↔ t.place = p := by
  by_cases h : t.place = p <;> simp [only, h]

namespace Explores

variable {good : State → Prop} {f : Next → Option State}

theorem exists_of_eq_some (hf : Explores good f) {k : Next} {u : State} (h : f k = some u) :
    ∃ t, good t ∧ k t = some u ∧ (f (only t.place)).isSome := by
  obtain ⟨ts, hts, hf⟩ := hf
  obtain ⟨t, ht, hk⟩ := List.exists_of_findSome?_eq_some ((hf k).symm.trans h)
  refine ⟨t, hts t ht, hk, ?_⟩
  rw [hf, List.findSome?_isSome_iff]
  exact ⟨t, ht, only_isSome_iff.2 rfl⟩

theorem exists_of_only (hf : Explores good f) {p : Place} (h : (f (only p)).isSome) :
    ∃ t, good t ∧ t.place = p ∧ ∀ k, (k t).isSome → (f k).isSome := by
  obtain ⟨ts, hts, hf⟩ := hf
  rw [hf, List.findSome?_isSome_iff] at h
  obtain ⟨t, ht, hk⟩ := h
  refine ⟨t, hts t ht, only_isSome_iff.1 hk, fun k hkt => ?_⟩
  rw [hf, List.findSome?_isSome_iff]
  exact ⟨t, ht, hkt⟩

end Explores

namespace Node

/-- Some way through the node leads from the place after `i` characters to the one after `j`. -/
def spans (env : Surroundings) (n : Node) (cs : List Char) (i j : Nat) : Bool :=
  (n.run env false (.fresh cs i) (only (Place.of cs j))).isSome

variable {env : Surroundings} {n : Node} {cs : List Char} {i j : Nat}

/-- What a quiet run comes to: an end of a span, from which the rest is run. -/
theorem exists_span_of_run (henv : env.Explore cs) (hn : n.isQuiet = true) (hi : i ≤ cs.length)
    {k : Next} {u : State} (h : n.run env false (.fresh cs i) k = some u) :
    ∃ j, i ≤ j ∧ j ≤ cs.length ∧ n.spans env cs i j = true ∧ k (.fresh cs j) = some u := by
  obtain ⟨t, ht, hk, hspan⟩ :=
    (n.explores henv false _ (State.fresh_within hi)).exists_of_eq_some h
  obtain ⟨j, hj, hplace⟩ := ht.within
  have hle : i ≤ t.place.offset := ht.leads.onward rfl
  rw [ht.still hn, hplace] at hk
  rw [hplace] at hspan hle
  exact ⟨j, hle, hj, hspan, hk⟩

theorem run_isSome_of_span (henv : env.Explore cs) (hn : n.isQuiet = true) (hi : i ≤ cs.length)
    (h : n.spans env cs i j = true) {k : Next} (hk : (k (.fresh cs j)).isSome) :
    (n.run env false (.fresh cs i) k).isSome := by
  obtain ⟨t, ht, hplace, hall⟩ :=
    (n.explores henv false _ (State.fresh_within hi)).exists_of_only h
  apply hall
  rwa [ht.still hn, hplace]

/-- A quiet run succeeds when the rest succeeds at the end of a span. -/
theorem run_isSome_iff (henv : env.Explore cs) (hn : n.isQuiet = true) (hi : i ≤ cs.length)
    (k : Next) :
    (n.run env false (.fresh cs i) k).isSome ↔
      ∃ j, i ≤ j ∧ j ≤ cs.length ∧ n.spans env cs i j = true ∧ (k (.fresh cs j)).isSome := by
  constructor
  · intro h
    obtain ⟨u, hu⟩ := Option.isSome_iff_exists.1 h
    obtain ⟨j, hij, hj, hspan, hk⟩ := exists_span_of_run henv hn hi hu
    exact ⟨j, hij, hj, hspan, by simp [hk]⟩
  · rintro ⟨j, -, -, hspan, hk⟩
    exact run_isSome_of_span henv hn hi hspan hk

theorem spans_bounds (henv : env.Explore cs) (hn : n.isQuiet = true) (hi : i ≤ cs.length)
    (h : n.spans env cs i j = true) : i ≤ j ∧ j ≤ cs.length := by
  obtain ⟨j', hij, hj, -, hk⟩ := (run_isSome_iff henv hn hi _).1 h
  obtain rfl : j' = j := Place.of_inj.1 (only_isSome_iff.1 hk)
  exact ⟨hij, hj⟩

end Node

/-! Sequences -/

namespace Node

variable {env : Surroundings}

theorem run_ofList_cons (n : Node) (ns : List Node) (s : State) (k : Next) :
    (ofList (n :: ns)).run env false s k =
      n.run env false s fun t => (ofList ns).run env false t k := by
  cases ns with
  | nil => rfl
  | cons m ns => rfl

theorem run_ofList_append (ms ns : List Node) (s : State) (k : Next) :
    (ofList (ms ++ ns)).run env false s k =
      (ofList ms).run env false s fun t => (ofList ns).run env false t k := by
  induction ms generalizing s with
  | nil => rfl
  | cons m ms ih => simp only [List.cons_append, run_ofList_cons, ih]

end Node

/-! Passing over characters -/

def Node.anything : Node := .repeated (.set false notNewline) 0 none .greedy

def Node.something : Node := .repeated (.set false notNewline) 1 none .greedy

theorem test_notNewline (c : Char) : notNewline.test false c = (c != '\n') := by
  simp [Class.test, notNewline, Class.has, bne, Bool.beq_eq_decide_eq, eq_comm]

theorem lt_length_of_cons_eq_drop {cs ahead : List Char} {c : Char} {i : Nat}
    (h : c :: ahead = cs.drop i) : i < cs.length := by
  have hlen := congrArg List.length h
  simp only [List.length_cons, List.length_drop] at hlen
  omega

theorem reach_of {cs : List Char} {test : Char → Bool} (h : ∀ c ∈ cs, test c = true)
    (ahead : List Char) (found : List Place) :
    ∀ {i : Nat}, i ≤ cs.length → ahead = cs.drop i →
      reach test false ahead none (Place.of cs i) found =
        (List.range' i (ahead.length + 1)).reverse.map (Place.of cs) ++ found := by
  induction ahead generalizing found with
  | nil =>
    intro i hi ha
    rfl
  | cons c ahead ih =>
    intro i hi ha
    have hlt : i < cs.length := lt_length_of_cons_eq_drop ha
    have hdrop : ahead = cs.drop (i + 1) := by
      rw [List.drop_eq_getElem_cons hlt] at ha
      exact (List.cons.inj ha).2
    rw [reach, if_neg (by simp), Place.step, if_neg Bool.false_ne_true, Place.forward_of hlt]
    simp only [h _ (List.getElem_mem hlt), if_true, Option.map_none]
    rw [ih _ hlt hdrop, List.length_cons]
    simp [List.range'_succ (n := ahead.length + 1)]

namespace Node

variable {env : Surroundings} {cs : List Char} {i : Nat}

theorem run_anything (h : '\n' ∉ cs) (hi : i ≤ cs.length) {s : State}
    (hs : s.place = Place.of cs i) (k : Next) :
    anything.run env false s k =
      (List.range' i (cs.length - i + 1)).reverse.findSome? fun j => k (s.at_ (Place.of cs j)) := by
  have hall : ∀ c ∈ cs, notNewline.test false c = true := by
    intro c hc
    rw [test_notNewline]
    exact bne_iff_ne.2 fun e => h (e ▸ hc)
  simp only [anything, run, single?, runSingle, hs, Place.ahead, Place.of_after]
  rw [if_neg Bool.false_ne_true, reach_of hall _ _ hi rfl, List.append_nil, Nat.sub_zero,
    List.take_length, List.findSome?_map, List.length_drop]
  rfl

theorem run_anything_isSome_iff (h : '\n' ∉ cs) (hi : i ≤ cs.length) {s : State}
    (hs : s.place = Place.of cs i) (k : Next) :
    (anything.run env false s k).isSome ↔
      ∃ j, i ≤ j ∧ j ≤ cs.length ∧ (k (s.at_ (Place.of cs j))).isSome := by
  simp only [run_anything h hi hs, List.findSome?_isSome_iff, List.mem_reverse, List.mem_range'_1]
  constructor
  · rintro ⟨j, hj, hk⟩
    exact ⟨j, hj.1, by omega, hk⟩
  · rintro ⟨j, hij, hj, hk⟩
    exact ⟨j, ⟨hij, by omega⟩, hk⟩

theorem run_anything_some (h : '\n' ∉ cs) (hi : i ≤ cs.length) {s : State}
    (hs : s.place = Place.of cs i) :
    anything.run env false s some = some (s.at_ (Place.of cs cs.length)) := by
  rw [run_anything h hi hs, List.range'_concat, List.reverse_concat, List.findSome?_cons]
  simp [Nat.add_sub_cancel' hi]

end Node

namespace Regex

def matchesAt (r : Regex) (cs : List Char) (i : Nat) : Bool :=
  (r.matchAt? (r.surroundings (r.depth cs)) (Place.of cs i)).isSome

def spans (r : Regex) (cs : List Char) (i j : Nat) : Bool :=
  r.node.spans (r.surroundings (r.depth cs)) cs i j

theorem searchFrom_isSome_iff {r : Regex} (hr : r.backwards = false) (env : Surroundings)
    {cs : List Char} (ahead : List Char) :
    ∀ {i : Nat}, i ≤ cs.length → ahead = cs.drop i →
      ((r.searchFrom env ahead (Place.of cs i)).isSome ↔
        ∃ j, i ≤ j ∧ j ≤ cs.length ∧ (r.matchAt? env (Place.of cs j)).isSome) := by
  induction ahead with
  | nil =>
    intro i hi ha
    have hlen : cs.length ≤ i := List.drop_eq_nil_iff.1 ha.symm
    rw [searchFrom]
    cases hm : r.matchAt? env (Place.of cs i) with
    | some s => simpa using ⟨i, Nat.le_refl i, hi, by simp [hm]⟩
    | none =>
      simp only [Option.isSome_none, Bool.false_eq_true, false_iff]
      rintro ⟨j, hij, hj, hsome⟩
      obtain rfl : j = i := by omega
      simp [hm] at hsome
  | cons c ahead ih =>
    intro i hi ha
    have hlt : i < cs.length := lt_length_of_cons_eq_drop ha
    have hdrop : ahead = cs.drop (i + 1) := by
      rw [List.drop_eq_getElem_cons hlt] at ha
      exact (List.cons.inj ha).2
    rw [searchFrom]
    cases hm : r.matchAt? env (Place.of cs i) with
    | some s => simpa using ⟨i, Nat.le_refl i, hi, by simp [hm]⟩
    | none =>
      -- No match begins here, so the search goes on behind the next character.
      simp only [hr, Place.step, Bool.false_eq_true, if_false, Place.forward_of hlt]
      rw [ih hlt hdrop]
      constructor
      · rintro ⟨j, hij, hj, hsome⟩
        exact ⟨j, by omega, hj, hsome⟩
      · rintro ⟨j, hij, hj, hsome⟩
        refine ⟨j, Nat.lt_of_le_of_ne hij ?_, hj, hsome⟩
        rintro rfl
        simp [hm] at hsome

theorem search?_isSome_iff {r : Regex} (hr : r.backwards = false) (cs : List Char) :
    (r.search? cs).isSome ↔ ∃ i ≤ cs.length, r.matchesAt cs i = true := by
  simp only [search?, firstPlace, hr, Bool.false_eq_true, if_false, Option.isSome_map,
    Place.start_eq_of]
  rw [searchFrom_isSome_iff hr _ cs (Nat.zero_le _) rfl]
  simp [matchesAt]

theorem search?_of_matchAt? {r : Regex} (hr : r.backwards = false) {cs : List Char} {s : State}
    (h : r.matchAt? (r.surroundings (r.depth cs)) (Place.of cs 0) = some s) :
    r.search? cs = some (matchText (Place.of cs 0) s) := by
  simp only [search?, firstPlace, hr, Bool.false_eq_true, if_false, Place.start_eq_of]
  unfold searchFrom
  simp [h]

theorem matchAt?_eq {r : Regex} (hr : r.backwards = false) (env : Surroundings) (cs : List Char)
    (i : Nat) :
    r.matchAt? env (Place.of cs i) = r.node.run env false (.fresh cs i) some := by
  rw [matchAt?, hr]
  rfl

theorem matchText_fresh (cs : List Char) :
    matchText (Place.of cs 0) (.fresh cs cs.length) = cs := by
  simp [matchText, State.fresh, Place.textTo]

end Regex

namespace Tester

theorem accepts_eq (t : Tester) (text : String) :
    t.accepts text = (t.regex.search? text.toList).isSome := by
  simp [Tester.accepts, Tester.match?]

end Tester
end ReleaseMatch.Pattern
