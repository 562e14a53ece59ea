import ReleaseMatch.Proofs.Engine.Search
set_option autoImplicit false

/-!
# Nodes without references

Where a node refers to no group, nothing that is captured has a say in where its run goes, and neither
have the numbers of its groups. Such a node matches in the same way behind whatever else is matched.
-/
namespace ReleaseMatch.Pattern

open Text

namespace Node

def isFree : Node → Bool
  | .seq a b | .alt a b => a.isFree && b.isFree
  | .group _ body | .repeated body .. | .look _ _ body | .atomic body => body.isFree
  | .ifLook _ _ test yes no => test.isFree && yes.isFree && no.isFree
  | .backref .. | .ifGroup .. | .call _ => false
  | _ => true

def unnumbered : Node → Node
  | .seq a b => .seq a.unnumbered b.unnumbered
  | .alt a b => .alt a.unnumbered b.unnumbered
  | .group _ body => .group 0 body.unnumbered
  | .repeated body least most greed => .repeated body.unnumbered least most greed
  | .look behind positive body => .look behind positive body.unnumbered
  | .atomic body => .atomic body.unnumbered
  | .ifGroup ref yes no => .ifGroup ref yes.unnumbered no.unnumbered
  | .ifLook behind positive test yes no =>
    .ifLook behind positive test.unnumbered yes.unnumbered no.unnumbered
  | n => n

theorem single?_unnumbered (n : Node) : n.unnumbered.single? = n.single? := by
  cases n with
  | literal mode cs => rfl
  | _ => rfl

end Node

def Agree (x y : Option State) : Prop := x.map State.place = y.map State.place

namespace Agree

variable {x y z x' y' : Option State} {s t : State}

theorem none : Agree .none .none := rfl

theorem some (h : s.place = t.place) : Agree (.some s) (.some t) := congrArg Option.some h

theorem symm (h : Agree x y) : Agree y x := Eq.symm h

theorem trans (h : Agree x y) (h' : Agree y z) : Agree x z := Eq.trans h h'

theorem isSome_eq (h : Agree x y) : x.isSome = y.isSome := by
  simpa using congrArg Option.isSome h

theorem or (h : Agree x y) (h' : Agree x' y') : Agree (x.or x') (y.or y') := by
  cases x with
  | none =>
    cases y with
    | none => simpa using h'
    | some t => exact absurd h (by simp [Agree])
  | some s =>
    cases y with
    | none => exact absurd h (by simp [Agree])
    | some t => exact h

theorem cases_on (h : Agree x y) :
    (x = .none ∧ y = .none) ∨ ∃ s t, x = .some s ∧ y = .some t ∧ s.place = t.place := by
  cases x with
  | none =>
    cases y with
    | none => exact .inl ⟨rfl, rfl⟩
    | some t => exact absurd h (by simp [Agree])
  | some s =>
    cases y with
    | none => exact absurd h (by simp [Agree])
    | some t => exact .inr ⟨s, t, rfl, rfl, by simpa [Agree] using h⟩

end Agree

def AgreeNext (k k' : Next) : Prop := ∀ s t : State, s.place = t.place → Agree (k s) (k' t)

theorem agreeNext_some : AgreeNext some some := fun _ _ h => .some h

theorem agreeNext_only (p : Place) : AgreeNext (only p) (only p) := by
  intro s t h
  simp only [only, h]
  split
  · exact .some h
  · exact .none

/-- Runs that go the same ways from one place, whatever has been captured. -/
def AgreeRun (f g : State → Next → Option State) : Prop :=
  ∀ s t : State, s.place = t.place → ∀ k k', AgreeNext k k' → Agree (f s k) (g t k')

theorem agree_bind {x y : Option State} {k k' : Next} (h : Agree x y) (hk : AgreeNext k k') :
    Agree (x.bind k) (y.bind k') := by
  rcases h.cases_on with ⟨rfl, rfl⟩ | ⟨s, t, rfl, rfl, hst⟩
  · exact .none
  · exact hk s t hst

theorem agree_bind_place {s t : State} {k k' : Next} (hk : AgreeNext k k') (q? : Option Place) :
    Agree (q?.bind fun p => k (s.at_ p)) (q?.bind fun p => k' (t.at_ p)) := by
  cases q? with
  | none => exact .none
  | some p => exact hk (s.at_ p) (t.at_ p) rfl

theorem agree_look {positive : Bool} {x y : Option State} {s t : State} (hst : s.place = t.place)
    {yes no yes' no' : State → Option State}
    (hyes : ∀ u v : State, u.place = v.place → Agree (yes u) (yes' v))
    (hno : ∀ u v : State, u.place = v.place → Agree (no u) (no' v)) :
    Agree x y → Agree
      (match x with
        | some u => if positive then yes (u.at_ s.place) else no s
        | none => if positive then no s else yes s)
      (match y with
        | some v => if positive then yes' (v.at_ t.place) else no' t
        | none => if positive then no' t else yes' t) := by
  intro h
  rcases h.cases_on with ⟨rfl, rfl⟩ | ⟨u, v, rfl, rfl, -⟩
  · cases positive with
    | true => exact hno s t hst
    | false => exact hyes s t hst
  · cases positive with
    | true => exact hyes (u.at_ s.place) (v.at_ t.place) hst
    | false => exact hno s t hst

theorem agree_findSome? {s t : State} {k k' : Next} (hk : AgreeNext k k') (places : List Place) :
    Agree (places.findSome? fun p => k (s.at_ p)) (places.findSome? fun p => k' (t.at_ p)) := by
  induction places with
  | nil => exact .none
  | cons p places ih =>
    rcases (hk (s.at_ p) (t.at_ p) rfl).cases_on with ⟨hs, ht⟩ | ⟨u, v, hs, ht, huv⟩
    · simpa [hs, ht] using ih
    · simpa [hs, ht] using Agree.some huv

theorem agreeRun_runSingle (test : Char → Bool) (least : Nat) (most : Option Nat) (greed : Greed)
    (backwards : Bool) :
    AgreeRun (runSingle test least most greed backwards)
      (runSingle test least most greed backwards) := by
  intro s t hst k k' hk
  simp only [runSingle, hst]
  cases greed with
  | greedy => exact agree_findSome? hk _
  | lazy => exact agree_findSome? hk _
  | possessive =>
    dsimp only
    split
    · exact .none
    · exact hk _ _ rfl

theorem runRounds_nil (body : State → Next → Option State) (least : Nat) (most : Option Nat)
    (isLazy : Bool) (count : Nat) (s : State) (k : Next) :
    runRounds body least most isLazy [] count s k =
      let stop := if least ≤ count then k s else none
      let more :=
        if most.any (· ≤ count) then none
        else body s fun t => if t.place.offset = s.place.offset then k t else none
      if isLazy then stop.or more else more.or stop :=
  rfl

theorem runRounds_cons (body : State → Next → Option State) (least : Nat) (most : Option Nat)
    (isLazy : Bool) (c : Char) (rounds : List Char) (count : Nat) (s : State) (k : Next) :
    runRounds body least most isLazy (c :: rounds) count s k =
      let stop := if least ≤ count then k s else none
      let more :=
        if most.any (· ≤ count) then none
        else body s fun t =>
          if t.place.offset = s.place.offset then k t
          else runRounds body least most isLazy rounds (count + 1) t k
      if isLazy then stop.or more else more.or stop :=
  rfl

theorem agreeRun_runRounds {f g : State → Next → Option State} (h : AgreeRun f g) (least : Nat)
    (most : Option Nat) (isLazy : Bool) (rounds : List Char) :
    ∀ count, AgreeRun (runRounds f least most isLazy rounds count)
      (runRounds g least most isLazy rounds count) := by
  have hcombine {x y x' y' : Option State} (hmore : Agree x y) (hstop : Agree x' y') :
      Agree (if isLazy then x'.or x else x.or x') (if isLazy then y'.or y else y.or y') := by
    cases isLazy with
    | false => exact hmore.or hstop
    | true => exact hstop.or hmore
  have hstop (count : Nat) {s t : State} (hst : s.place = t.place) {k k' : Next}
      (hk : AgreeNext k k') :
      Agree (if least ≤ count then k s else none) (if least ≤ count then k' t else none) := by
    split
    · exact hk s t hst
    · exact .none
  induction rounds with
  | nil =>
    intro count s t hst k k' hk
    rw [runRounds_nil, runRounds_nil]
    refine hcombine ?_ (hstop count hst hk)
    split
    · exact .none
    · refine h s t hst _ _ fun u v huv => ?_
      simp only [hst, huv]
      split
      · exact hk u v huv
      · exact .none
  | cons c rounds ih =>
    intro count s t hst k k' hk
    rw [runRounds_cons, runRounds_cons]
    refine hcombine ?_ (hstop count hst hk)
    split
    · exact .none
    · refine h s t hst _ _ fun u v huv => ?_
      simp only [hst, huv]
      split
      · exact hk u v huv
      · exact ih (count + 1) u v huv k k' hk

namespace Node

/-- What a node without references comes to depends neither on the numbers of its groups nor on what
has been captured before. -/
theorem agreeRun_unnumbered {n : Node} (hn : n.isFree = true) (env env' : Surroundings) :
    ∀ backwards, AgreeRun (n.run env backwards) (n.unnumbered.run env' backwards) := by
  induction n with
  | empty =>
    intro backwards s t hst k k' hk
    exact hk s t hst
  | fail =>
    intro backwards s t hst k k' hk
    exact .none
  | char c mode =>
    intro backwards s t hst k k' hk
    simp only [unnumbered, run, hst]
    exact agree_bind_place hk _
  | literal mode cs =>
    intro backwards s t hst k k' hk
    simp only [unnumbered, run, hst]
    exact agree_bind_place hk _
  | set ignoreCase cls =>
    intro backwards s t hst k k' hk
    simp only [unnumbered, run, hst]
    cases t.place.step backwards with
    | none => exact .none
    | some found =>
      dsimp only
      split
      · exact hk _ _ rfl
      · exact .none
  | seq a b iha ihb =>
    intro backwards s t hst k k' hk
    rw [isFree, Bool.and_eq_true] at hn
    have ha := iha hn.1
    have hb := ihb hn.2
    cases backwards with
    | false => exact ha false s t hst _ _ fun u v huv => hb false u v huv k k' hk
    | true => exact hb true s t hst _ _ fun u v huv => ha true u v huv k k' hk
  | alt a b iha ihb =>
    intro backwards s t hst k k' hk
    rw [isFree, Bool.and_eq_true] at hn
    exact (iha hn.1 backwards s t hst k k' hk).or (ihb hn.2 backwards s t hst k k' hk)
  | group index body ih =>
    intro backwards s t hst k k' hk
    -- What is captured differs, but not the place, and that is all that is asked of a state.
    exact ih hn backwards s t hst _ _ fun u v huv => hk _ _ huv
  | repeated body least most greed ih =>
    intro backwards s t hst k k' hk
    have hbody := ih hn backwards
    simp only [unnumbered, run, single?_unnumbered]
    split
    · exact agreeRun_runSingle _ _ _ _ _ s t hst k k' hk
    · rw [hst]
      cases greed with
      | greedy => exact agreeRun_runRounds hbody _ _ _ _ 0 s t hst k k' hk
      | lazy => exact agreeRun_runRounds hbody _ _ _ _ 0 s t hst k k' hk
      | possessive =>
        exact agree_bind (agreeRun_runRounds hbody _ _ _ _ 0 s t hst _ _ agreeNext_some) hk
  | look behind positive body ih =>
    intro backwards s t hst k k' hk
    have hbody := ih hn behind s t hst _ _ agreeNext_some
    simp only [unnumbered, run]
    exact agree_look hst hk (fun _ _ _ => .none) hbody
  | atomic body ih =>
    intro backwards s t hst k k' hk
    exact agree_bind (ih hn backwards s t hst _ _ agreeNext_some) hk
  | backref ref mode => exact absurd hn (by simp [isFree])
  | ifGroup ref yes no => exact absurd hn (by simp [isFree])
  | ifLook behind positive test yes no iht ihy ihn =>
    intro backwards s t hst k k' hk
    rw [isFree, Bool.and_eq_true, Bool.and_eq_true] at hn
    have htest := iht hn.1.1 behind s t hst _ _ agreeNext_some
    have hyes := ihy hn.1.2 backwards
    have hno := ihn hn.2 backwards
    simp only [unnumbered, run]
    exact agree_look hst (fun u v huv => hyes u v huv k k' hk)
      (fun u v huv => hno u v huv k k' hk) htest
  | anchor a =>
    intro backwards s t hst k k' hk
    simp only [unnumbered, run, hst]
    split
    · exact hk s t hst
    · exact .none
  | keep =>
    intro backwards s t hst k k' hk
    exact hk _ _ hst
  | call ref => exact absurd hn (by simp [isFree])

theorem agreeRun_of_unnumbered_eq {m n : Node} (hm : m.isFree = true) (hn : n.isFree = true)
    (h : m.unnumbered = n.unnumbered) (env env' : Surroundings) (backwards : Bool) :
    AgreeRun (m.run env backwards) (n.run env' backwards) := by
  intro s t hst k k' hk
  have hk' : AgreeNext k' k' := by
    intro u v huv
    exact (hk v u huv.symm).symm.trans (hk v v rfl)
  have hfirst := agreeRun_unnumbered hm env env backwards s t hst k k' hk
  have hthen := agreeRun_unnumbered hn env' env backwards t t rfl k' k' hk'
  rw [← h] at hthen
  exact hfirst.trans hthen.symm

theorem spans_congr {n : Node} (hn : n.isFree = true) (env env' : Surroundings) (cs : List Char)
    (i j : Nat) : n.spans env cs i j = n.spans env' cs i j :=
  (agreeRun_of_unnumbered_eq hn hn rfl env env' false _ _ rfl _ _ (agreeNext_only _)).isSome_eq

end Node
end ReleaseMatch.Pattern
