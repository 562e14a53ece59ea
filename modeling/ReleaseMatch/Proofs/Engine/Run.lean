import ReleaseMatch.Proofs.Engine.Place
set_option autoImplicit false

/-!
# Runs as searches

A run of a node tries end states one after the other, in an order that does not depend on what comes
after the node, and the continuation picks the first that suits it. Hence a run succeeds exactly
when some end of the node is one from which the continuation succeeds.
-/
namespace ReleaseMatch.Pattern

def Explores (good : State → Prop) (run : Next → Option State) : Prop :=
  ∃ ts : List State, (∀ t ∈ ts, good t) ∧ ∀ k, run k = ts.findSome? k

namespace Explores

variable {good better : State → Prop} {f g : Next → Option State}

theorem fail : Explores good fun _ => none :=
  ⟨[], by simp, fun _ => rfl⟩

theorem once {s : State} (h : good s) : Explores good fun k => k s :=
  ⟨[s], by simpa using h, fun k => by simp⟩

theorem mono (hf : Explores good f) (h : ∀ t, good t → better t) : Explores better f := by
  obtain ⟨ts, hts, heq⟩ := hf
  exact ⟨ts, fun t ht => h t (hts t ht), heq⟩

theorem or (hf : Explores good f) (hg : Explores good g) :
    Explores good fun k => (f k).or (g k) := by
  obtain ⟨ts, hts, hf⟩ := hf
  obtain ⟨us, hus, hg⟩ := hg
  refine ⟨ts ++ us, ?_, fun k => ?_⟩
  · intro t ht
    exact (List.mem_append.1 ht).elim (hts t) (hus t)
  · change (f k).or (g k) = _
    rw [List.findSome?_append, hf, hg]

theorem bind {h : State → Next → Option State} (hf : Explores good f)
    (hh : ∀ t, good t → Explores better (h t)) :
    Explores better fun k => f fun t => h t k := by
  obtain ⟨ts, hts, hf⟩ := hf
  suffices key : ∃ us : List State, (∀ u ∈ us, better u) ∧
      ∀ k, ts.findSome? (fun t => h t k) = us.findSome? k by
    obtain ⟨us, hus, heq⟩ := key
    exact ⟨us, hus, fun k => (hf _).trans (heq k)⟩
  clear hf
  induction ts with
  | nil => exact ⟨[], by simp, fun _ => rfl⟩
  | cons t ts ih =>
    obtain ⟨us, hus, heq⟩ := ih fun u hu => hts u (List.mem_cons_of_mem t hu)
    obtain ⟨vs, hvs, hv⟩ := hh t (hts t List.mem_cons_self)
    refine ⟨vs ++ us, ?_, fun k => ?_⟩
    · intro u hu
      exact (List.mem_append.1 hu).elim (hvs u) (hus u)
    · rw [List.findSome?_append, ← hv k, ← heq k, List.findSome?_cons]
      cases h t k <;> rfl

theorem ofList {α : Type} {states : α → State} {xs : List α} (h : ∀ x ∈ xs, good (states x)) :
    Explores good fun k => xs.findSome? fun x => k (states x) := by
  refine ⟨xs.map states, ?_, fun k => ?_⟩
  · intro t ht
    obtain ⟨x, hx, rfl⟩ := List.mem_map.1 ht
    exact h x hx
  · rw [List.findSome?_map]
    rfl

theorem ite {p : Prop} [Decidable p] (hf : p → Explores good f) (hg : ¬p → Explores good g) :
    Explores good fun k => if p then f k else g k := by
  by_cases h : p
  · simpa only [h, if_true] using hf h
  · simpa only [h, if_false] using hg h

theorem some_good (hf : Explores good f) {t : State} (h : f some = some t) : good t := by
  obtain ⟨ts, hts, hf⟩ := hf
  obtain ⟨u, hu, htu⟩ := List.exists_of_findSome?_eq_some ((hf some).symm.trans h)
  obtain rfl : u = t := by simpa using htu
  exact hts u hu

end Explores

/-- Captures nothing and leaves the start of the match alone, whatever it is run from. -/
def Node.isQuiet : Node → Bool
  | .seq a b | .alt a b => a.isQuiet && b.isQuiet
  | .repeated body .. | .look _ _ body | .atomic body => body.isQuiet
  | .ifGroup _ yes no => yes.isQuiet && no.isQuiet
  | .ifLook _ _ test yes no => test.isQuiet && yes.isQuiet && no.isQuiet
  | .group .. | .keep | .call _ => false
  | _ => true

/-- What comes of moving in a text: a state with a place that reading leads to, and with nothing
else changed when the node is quiet. -/
structure Moves (text : List Char) (backwards quiet : Bool) (s t : State) : Prop where
  leads : s.place.Leads text backwards t.place
  still : quiet = true → t = s.at_ t.place

namespace Moves

variable {text : List Char} {backwards quiet calm : Bool} {s t u : State}

theorem within (h : Moves text backwards quiet s t) : t.place.Within text := h.leads.within

theorem refl (h : s.place.Within text) : Moves text backwards quiet s s := ⟨.refl h, fun _ => rfl⟩

theorem at_ {p : Place} (h : s.place.Leads text backwards p) :
    Moves text backwards quiet s (s.at_ p) :=
  ⟨h, fun _ => rfl⟩

theorem trans (hst : Moves text backwards quiet s t) (htu : Moves text backwards quiet t u) :
    Moves text backwards quiet s u := by
  refine ⟨hst.leads.trans htu.leads, fun hq => ?_⟩
  rw [htu.still hq, hst.still hq]
  rfl

theorem weaken (h : Moves text backwards calm s t) (hq : quiet = true → calm = true) :
    Moves text backwards quiet s t :=
  ⟨h.leads, fun hquiet => h.still (hq hquiet)⟩

theorem back {behind : Bool} (hs : s.place.Within text) (h : Moves text behind quiet s t) :
    Moves text backwards quiet s (t.at_ s.place) :=
  ⟨.refl hs, fun hq => by rw [h.still hq]; rfl⟩

end Moves

section

variable {text : List Char} {backwards quiet : Bool} {s : State}

theorem explores_bind_place {q? : Option Place} (h : ∀ q, q? = some q → s.place.Leads text backwards q) :
    Explores (Moves text backwards quiet s) fun k => q?.bind fun p => k (s.at_ p) := by
  cases q? with
  | none => exact Explores.fail
  | some q => exact Explores.once (.at_ (h q rfl))

theorem explores_bind_state {t? : Option State} (h : ∀ t, t? = some t → Moves text backwards quiet s t) :
    Explores (Moves text backwards quiet s) fun k => t?.bind k := by
  cases t? with
  | none => exact Explores.fail
  | some t => exact Explores.once (h t rfl)

theorem explores_look (yes no : State → Next → Option State) {behind positive : Bool}
    {t? : Option State} (hs : s.place.Within text)
    (hyes : ∀ t : State, t.place.Within text → Explores (Moves text backwards quiet t) (yes t))
    (hno : ∀ t : State, t.place.Within text → Explores (Moves text backwards quiet t) (no t)) :
    (∀ t, t? = some t → Moves text behind quiet s t) →
      Explores (Moves text backwards quiet s) fun k =>
        match t? with
        | some t => if positive then yes (t.at_ s.place) k else no s k
        | none => if positive then no s k else yes s k := by
  intro hfound
  cases t? with
  | none => exact .ite (fun _ => hno s hs) fun _ => hyes s hs
  | some t =>
    have hback : Moves text backwards quiet s (t.at_ s.place) := (hfound t rfl).back hs
    refine .ite (fun _ => ?_) fun _ => hno s hs
    exact (hyes (t.at_ s.place) hs).mono fun u hu => hback.trans hu

theorem explores_first (places : List Place) :
    (∀ p ∈ places, Moves text backwards quiet s (s.at_ p)) →
      Explores (Moves text backwards quiet s) fun k =>
        match places with
        | [] => none
        | p :: _ => k (s.at_ p) := by
  intro h
  cases places with
  | nil => exact .fail
  | cons p places => exact .once (h p List.mem_cons_self)

theorem explores_runSingle {test : Char → Bool} {least : Nat} {most : Option Nat} {greed : Greed}
    (hs : s.place.Within text) :
    Explores (Moves text backwards quiet s) (runSingle test least most greed backwards s) := by
  have hmoves : ∀ p ∈ (reach test backwards (s.place.ahead backwards) most s.place []).take
      ((reach test backwards (s.place.ahead backwards) most s.place []).length - least),
      Moves text backwards quiet s (s.at_ p) := by
    intro p hp
    have hleads := Place.Leads.of_mem_reach hs (by simp) (List.mem_of_mem_take hp)
    exact .at_ (hleads.resolve_right (by simp))
  cases greed with
  | greedy => exact .ofList hmoves
  | lazy => exact .ofList fun p hp => hmoves p (List.mem_reverse.1 hp)
  | possessive =>
    exact explores_first _ hmoves

theorem explores_runRounds {body : State → Next → Option State} {least : Nat} {most : Option Nat}
    {isLazy : Bool}
    (hbody : ∀ t : State, t.place.Within text → Explores (Moves text backwards quiet t) (body t)) :
    ∀ (rounds : List Char) (count : Nat) (s : State), s.place.Within text →
      Explores (Moves text backwards quiet s) (runRounds body least most isLazy rounds count s) := by
  have hcombine {s : State} {more stop : Next → Option State}
      (hmore : Explores (Moves text backwards quiet s) more)
      (hstop : Explores (Moves text backwards quiet s) stop) :
      Explores (Moves text backwards quiet s) fun k =>
        if isLazy then (stop k).or (more k) else (more k).or (stop k) := by
    cases isLazy with
    | false => exact hmore.or hstop
    | true => exact hstop.or hmore
  have hstop (count : Nat) {s : State} (hs : s.place.Within text) :
      Explores (Moves text backwards quiet s) fun k => if least ≤ count then k s else none :=
    .ite (fun _ => .once (.refl hs)) fun _ => .fail
  intro rounds
  induction rounds with
  | nil =>
    intro count s hs
    refine hcombine (.ite (fun _ => .fail) fun _ => (hbody s hs).bind fun t ht => ?_) (hstop count hs)
    exact .ite (fun _ => .once ht) fun _ => .fail
  | cons c rounds ih =>
    intro count s hs
    refine hcombine (.ite (fun _ => .fail) fun _ => (hbody s hs).bind fun t ht => ?_) (hstop count hs)
    exact .ite (fun _ => .once ht) fun _ => (ih (count + 1) t ht.within).mono fun u hu => ht.trans hu

end

namespace Surroundings

/-- Calls that are searches in the text themselves. -/
def Explore (env : Surroundings) (text : List Char) : Prop :=
  ∀ ref backwards (s : State), s.place.Within text →
    Explores (fun t => s.place.Leads text backwards t.place) (env.call ref backwards s)

end Surroundings

namespace Node

/-- The run of a node tries end states in an order of its own, and never leaves the text. -/
theorem explores {text : List Char} {env : Surroundings} (henv : env.Explore text) (n : Node) :
    ∀ (backwards : Bool) (s : State), s.place.Within text →
      Explores (Moves text backwards n.isQuiet s) (n.run env backwards s) := by
  induction n with
  | empty =>
    intro backwards s hs
    exact .once (.refl hs)
  | fail =>
    intro backwards s hs
    exact .fail
  | char c mode =>
    intro backwards s hs
    exact explores_bind_place fun q h => Place.Leads.of_readLiteral hs h
  | literal mode cs =>
    intro backwards s hs
    exact explores_bind_place fun q h => Place.Leads.of_readLiteral hs h
  | set ignoreCase cls =>
    intro backwards s hs
    simp only [run]
    cases h : s.place.step backwards with
    | none => exact .fail
    | some next => exact .ite (fun _ => .once (.at_ (.of_step hs h))) fun _ => .fail
  | seq a b iha ihb =>
    intro backwards s hs
    -- A part is as quiet as the whole at least, so that its ends may be taken for ends of the whole.
    cases backwards with
    | false =>
      refine ((iha false s hs).mono fun t ht => ht.weaken ?_).bind fun t ht =>
        (ihb false t ht.within).mono fun u hu => ht.trans (hu.weaken ?_)
      all_goals simp +contextual [isQuiet]
    | true =>
      refine ((ihb true s hs).mono fun t ht => ht.weaken ?_).bind fun t ht =>
        (iha true t ht.within).mono fun u hu => ht.trans (hu.weaken ?_)
      all_goals simp +contextual [isQuiet]
  | alt a b iha ihb =>
    intro backwards s hs
    refine ((iha backwards s hs).mono fun t ht => ht.weaken ?_).or
      ((ihb backwards s hs).mono fun t ht => ht.weaken ?_)
    all_goals simp +contextual [isQuiet]
  | group index body ih =>
    intro backwards s hs
    refine (ih backwards s hs).bind fun t ht => .once ⟨ht.leads, ?_⟩
    simp [isQuiet]
  | repeated body least most greed ih =>
    intro backwards s hs
    simp only [run]
    split
    · exact explores_runSingle hs
    · have hrounds : ∀ isLazy, Explores (Moves text backwards body.isQuiet s) (runRounds
          (fun t k => body.run env backwards t k) least most isLazy
          ('\n' :: s.place.ahead backwards) 0 s) :=
        fun isLazy => explores_runRounds (fun t ht => ih backwards t ht) _ 0 s hs
      -- A possessive repetition keeps to the first end that it comes to.
      cases greed with
      | greedy => exact hrounds false
      | lazy => exact hrounds true
      | possessive => exact explores_bind_state fun t ht => (hrounds false).some_good ht
  | look behind positive body ih =>
    intro backwards s hs
    simp only [run]
    exact explores_look (fun t k => k t) (fun _ _ => none) hs (fun t ht => .once (.refl ht))
      (fun _ _ => .fail) fun t ht => (ih behind s hs).some_good ht
  | atomic body ih =>
    intro backwards s hs
    exact explores_bind_state fun t ht => (ih backwards s hs).some_good ht
  | backref ref mode =>
    intro backwards s hs
    simp only [run]
    cases s.captured? (env.number ref) with
    | none => exact .fail
    | some cs => exact explores_bind_place fun q h => Place.Leads.of_readLiteral hs h
  | ifGroup ref yes no ihy ihn =>
    intro backwards s hs
    refine .ite (fun _ => (ihy backwards s hs).mono fun t ht => ht.weaken ?_)
      fun _ => (ihn backwards s hs).mono fun t ht => ht.weaken ?_
    all_goals simp +contextual [isQuiet]
  | ifLook behind positive test yes no iht ihy ihn =>
    intro backwards s hs
    simp only [run]
    refine explores_look (yes.run env backwards) (no.run env backwards) hs
      (fun t ht => (ihy backwards t ht).mono fun u hu => hu.weaken ?_)
      (fun t ht => (ihn backwards t ht).mono fun u hu => hu.weaken ?_)
      fun t ht => ((iht behind s hs).some_good ht).weaken ?_
    all_goals simp +contextual [isQuiet]
  | anchor a =>
    intro backwards s hs
    exact .ite (fun _ => .once (.refl hs)) fun _ => .fail
  | keep =>
    intro backwards s hs
    exact .once ⟨.refl hs, by simp [isQuiet]⟩
  | call ref =>
    intro backwards s hs
    exact (henv ref backwards s hs).mono fun t ht => ⟨ht, by simp [isQuiet]⟩

end Node

namespace Regex

theorem surroundings_explore (r : Regex) (text : List Char) :
    ∀ depth, (r.surroundings depth).Explore text := by
  intro depth
  induction depth with
  | zero =>
    intro ref backwards s hs
    exact .fail
  | succ depth ih =>
    intro ref backwards s hs
    simp only [surroundings]
    cases r.callee? ref with
    | none => exact .fail
    | some body =>
      exact (body.explores ih backwards s hs).bind fun t ht => .once ht.leads

end Regex
end ReleaseMatch.Pattern
