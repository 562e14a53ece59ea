import Mathlib.Data.List.Forall2
import ReleaseMatch.Proofs.Result
import ReleaseMatch.Yaml.Construct
set_option autoImplicit false

/-!
# What plain nodes stand for

A node gives a value if that is its value and no fault comes up in it, in whatever generation of collections.
Sequences and mappings of such nodes give the lists and mappings of their values, as long as no mapping takes
anything over from another one.
-/
namespace ReleaseMatch.Yaml

/-- No fault comes up in these collections, or in those inside of them. -/
def Safe (ns : List Node) : Prop := ∀ fuel, checkGenerations fuel ns = .ok ()

def Node.Gives (n : Node) (v : Value) : Prop :=
  n.toValue = v ∧ ∃ ns, waiting n = .ok ns ∧ Safe ns

/-! Generations -/

theorem insideAll_append {ns ms ns' ms' : List Node} (h : insideAll ns = .ok ns') (h' : insideAll ms = .ok ms') :
    insideAll (ns ++ ms) = .ok (ns' ++ ms') := by
  induction ns generalizing ns' with
  | nil =>
    obtain rfl := Except.ok.inj h
    exact h'
  | cons n ns ih =>
    obtain ⟨first, hfirst, h⟩ := bind_eq_ok.1 h
    obtain ⟨more, hmore, h⟩ := bind_eq_ok.1 h
    obtain rfl := Except.ok.inj h
    refine bind_eq_ok.2 ⟨first, hfirst, bind_eq_ok.2 ⟨_, ih hmore, ?_⟩⟩
    rw [List.append_assoc]
    rfl

theorem safe_nil : Safe [] := fun fuel => by cases fuel <;> rfl

theorem Safe.insideAll {ns : List Node} (h : Safe ns) : ∃ ms, insideAll ns = .ok ms ∧ Safe ms := by
  cases ns with
  | nil => exact ⟨[], rfl, safe_nil⟩
  | cons n ns =>
    obtain ⟨ms, hms, -⟩ := bind_eq_ok.1 (h 1)
    refine ⟨ms, hms, fun fuel => ?_⟩
    obtain ⟨ms', hms', hcheck⟩ := bind_eq_ok.1 (h (fuel + 1))
    obtain rfl := Except.ok.inj (hms.symm.trans hms')
    exact hcheck

theorem safe_of_insideAll {ns ms : List Node} (hms : Yaml.insideAll ns = .ok ms) (h : Safe ms) : Safe ns := by
  intro fuel
  cases fuel with
  | zero => rfl
  | succ fuel =>
    cases ns with
    | nil => rfl
    | cons n ns => exact bind_eq_ok.2 ⟨ms, hms, h fuel⟩

theorem Safe.append {ns ms : List Node} (h : Safe ns) (h' : Safe ms) : Safe (ns ++ ms) := by
  intro fuel
  induction fuel generalizing ns ms with
  | zero => rfl
  | succ fuel ih =>
    obtain ⟨ns', hns, hsafe⟩ := h.insideAll
    obtain ⟨ms', hms, hsafe'⟩ := h'.insideAll
    cases hall : ns ++ ms with
    | nil => rfl
    | cons n rest =>
      rw [checkGenerations, ← hall, insideAll_append hns hms]
      · exact ih hsafe hsafe'
      · simp

/-! Collections -/

theorem gives_of_scalarValue {n : Node} {v : Value} (h : scalarValue n = .ok (some v))
    (hscalar : ∃ tag text mark, n = .scalar tag text mark) : n.Gives v := by
  obtain ⟨tag, text, mark, rfl⟩ := hscalar
  refine ⟨?_, [], ?_, safe_nil⟩
  · rw [Node.toValue, h]
  · rw [waiting, h]
    rfl

theorem safe_of_waiting {n : Node} {ns : List Node} (hinside : inside n = .ok ns) (h : Safe ns) : Safe [n] := by
  have hall : insideAll [n] = .ok (ns ++ []) := bind_eq_ok.2 ⟨ns, hinside, bind_eq_ok.2 ⟨[], rfl, rfl⟩⟩
  exact safe_of_insideAll hall (h.append safe_nil)

theorem gives_sequence {ns : List Node} {vs : List Value} (h : List.Forall₂ Node.Gives ns vs) (mark : Mark) :
    (Node.sequence .seq ns mark).Gives (.list vs) := by
  have hvalues : itemValues ns = vs := by
    induction h with
    | nil => rfl
    | cons h _ ih => rw [itemValues, h.1, ih]
  have hwaiting : ∃ ms, waitingItems ns = .ok ms ∧ Safe ms := by
    clear hvalues
    induction h with
    | nil => exact ⟨[], rfl, safe_nil⟩
    | cons h _ ih =>
      obtain ⟨-, first, hfirst, hsafe⟩ := h
      obtain ⟨more, hmore, hsafe'⟩ := ih
      exact ⟨first ++ more, bind_eq_ok.2 ⟨first, hfirst, bind_eq_ok.2 ⟨more, hmore, rfl⟩⟩, hsafe.append hsafe'⟩
  obtain ⟨ms, hms, hsafe⟩ := hwaiting
  refine ⟨?_, _, rfl, safe_of_waiting hms hsafe⟩
  rw [Node.toValue, if_pos rfl, hvalues]

inductive GivesEntry : Node × Node → Value × Value → Prop
  | mk {key : String} {mark : Mark} {n : Node} {v : Value} (h : n.Gives v) :
      GivesEntry (.scalar .str key mark, n) (.text key, v)

theorem insertEntry_of_forall {entries : List (Value × Value)} {key value : Value}
    (h : ∀ e ∈ entries, sameKey e.1 key = false) : insertEntry entries key value = entries ++ [(key, value)] := by
  induction entries with
  | nil => rfl
  | cons e rest ih =>
    rw [insertEntry, h e List.mem_cons_self, if_neg Bool.false_ne_true, ih fun e he => h e (List.mem_cons_of_mem _ he)]
    rfl

theorem dictOf_eq {entries : List (Value × Value)} (h : entries.Pairwise fun e e' => sameKey e.1 e'.1 = false) :
    dictOf entries = entries := by
  have hfrom : ∀ (done rest : List (Value × Value)), (done ++ rest).Pairwise (fun e e' => sameKey e.1 e'.1 = false) →
      rest.foldl (fun d e => insertEntry d e.1 e.2) done = done ++ rest := by
    intro done rest hall
    induction rest generalizing done with
    | nil => exact (List.append_nil done).symm
    | cons e rest ih =>
      have hnew : ∀ d ∈ done, sameKey d.1 e.1 = false :=
        fun d hd => (List.pairwise_append.1 hall).2.2 d hd e List.mem_cons_self
      rw [List.foldl_cons, insertEntry_of_forall hnew, ih (done ++ [e]) (by rwa [List.append_assoc]), List.append_assoc]
      rfl
  exact hfrom [] entries h

section

variable {es : List (Node × Node)} {vs : List (Value × Value)} (h : List.Forall₂ GivesEntry es vs)

include h

theorem mergedEntries_eq : mergedEntries es = [] := by
  induction h with
  | nil => rfl
  | cons h _ ih =>
    cases h
    exact ih

theorem ownEntries_eq : ownEntries es = vs := by
  induction h with
  | nil => rfl
  | cons h _ ih =>
    obtain ⟨h⟩ := h
    rw [ownEntries, if_neg (by simp [Node.tag]), if_neg (by simp [Node.tag]), ih, h.1]
    rfl

theorem takenNodes_eq (mark : Mark) : takenNodes mark es = .ok [] := by
  induction h with
  | nil => rfl
  | cons h _ ih =>
    cases h
    exact ih

theorem ownNodes_eq : ownNodes es = es := by
  induction h with
  | nil => rfl
  | cons h _ ih =>
    cases h
    exact congrArg (_ :: ·) ih

theorem waitingEntries_safe (mark : Mark) : ∃ ms, waitingEntries mark es = .ok ms ∧ Safe ms := by
  induction h with
  | nil => exact ⟨[], rfl, safe_nil⟩
  | cons h _ ih =>
    obtain ⟨-, first, hfirst, hsafe⟩ := h
    obtain ⟨more, hmore, hsafe'⟩ := ih
    refine ⟨first ++ more, ?_, hsafe.append hsafe'⟩
    exact bind_eq_ok.2 ⟨[], rfl, bind_eq_ok.2 ⟨first, hfirst, bind_eq_ok.2 ⟨more, hmore, rfl⟩⟩⟩

theorem gives_mapping (hdistinct : (vs.map (·.1)).Nodup) (mark : Mark) :
    (Node.mapping .map es mark).Gives (.map vs) := by
  have htext : ∀ e ∈ vs, ∃ key, e.1 = .text key := by
    clear hdistinct
    induction h with
    | nil => exact fun e he => absurd he List.not_mem_nil
    | cons h _ ih =>
      cases h
      exact List.forall_mem_cons.2 ⟨⟨_, rfl⟩, ih⟩
  have hkeys : vs.Pairwise fun e e' => sameKey e.1 e'.1 = false := by
    refine (List.pairwise_map.1 hdistinct).imp_of_mem fun {e e'} he he' hne => ?_
    obtain ⟨key, hkey⟩ := htext e he
    obtain ⟨key', hkey'⟩ := htext e' he'
    rw [hkey, hkey', ne_eq, Value.text.injEq] at hne
    rw [hkey, hkey', sameKey]
    exact beq_false_of_ne hne
  obtain ⟨ms, hms, hsafe⟩ := waitingEntries_safe h mark
  have hinside : inside (.mapping .map es mark) = .ok ms := by
    refine bind_eq_ok.2 ⟨[], takenNodes_eq h mark, ?_⟩
    rw [List.nil_append, ownNodes_eq h]
    exact hms
  refine ⟨?_, _, rfl, safe_of_waiting hinside hsafe⟩
  rw [Node.toValue, mergedEntries_eq h, ownEntries_eq h, List.nil_append, dictOf_eq hkeys]
  rfl

end

theorem construct_of_gives {n : Node} {v : Value} (h : n.Gives v) (fuel : Nat) : n.construct fuel = .ok v := by
  obtain ⟨rfl, ns, hns, hsafe⟩ := h
  exact bind_eq_ok.2 ⟨ns, hns, bind_eq_ok.2 ⟨(), hsafe fuel, rfl⟩⟩

end ReleaseMatch.Yaml
