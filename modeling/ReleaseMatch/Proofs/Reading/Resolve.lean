import Mathlib.Data.List.Nodup
import ReleaseMatch.Proofs.Reading.Beside
set_option autoImplicit false

/-!
# Where references lead

The groups of patterns that are read one after the other are numbered on. What a pattern refers to by
name it still refers to among the others, if they use other names; what it refers to by number is some
group as well.
-/
namespace ReleaseMatch.Pattern

/-! What is asked of a reference -/

def GroupName.numberIn (names : List (String × Nat)) : GroupName → Option Nat
  | .number n => some n
  | .name s => names.lookup s

namespace Reference

variable {ref : GroupName} {left count : Nat} {names : List (String × Nat)} {opened : List Nat}

theorem check_back_iff : (Reference.back ref left).check count names opened = .ok () ↔
    ∃ i, ref.numberIn names = some i ∧ 1 ≤ i ∧ i ≤ count := by
  cases ref with
  | number n => simp [check, GroupName.numberIn]
  | name s => cases hs : names.lookup s <;> simp [check, GroupName.numberIn, hs]

theorem check_condition_iff : (Reference.condition ref left).check count names opened = .ok () ↔
    ref.numberIn names = none ∧ ref = GroupName.name "DEFINE" ∨
      ∃ i, ref.numberIn names = some i ∧ i ≤ count := by
  cases ref with
  | number n => simp [check, GroupName.numberIn]
  | name s => cases hs : names.lookup s <;> simp [check, GroupName.numberIn, hs]

theorem check_call_iff : (Reference.call ref left).check count names opened = .ok () ↔
    ∃ i, ref.numberIn names = some i ∧ i ≤ count ∧ opened.count i ≤ 1 := by
  cases ref with
  | number n => simp [check, GroupName.numberIn, ite_eq_iff]
  | name s => cases hs : names.lookup s <;> simp [check, GroupName.numberIn, hs, ite_eq_iff]

end Reference

/-! Patterns one after the other -/

/-- All groups of patterns one after the other, the latest first. -/
def groupsOf : List Reader → Nat
  | [] => 0
  | e :: before => e.groupCount + groupsOf before

def namesOf : List Reader → List (String × Nat)
  | [] => []
  | e :: before => namesOf before ++ shifted (groupsOf before) e.names

def openedOf : List Reader → List Nat
  | [] => []
  | e :: before => e.opened.map (· + groupsOf before) ++ openedOf before

def Reader.NamesApart (e f : Reader) : Prop := ∀ p ∈ e.names, ∀ q ∈ f.names, p.1 ≠ q.1

instance (e f : Reader) : Decidable (e.NamesApart f) :=
  inferInstanceAs (Decidable (∀ p ∈ e.names, ∀ q ∈ f.names, p.1 ≠ q.1))

section

variable {e : Reader} {before earlier : List Reader}

theorem groupsOf_suffix (h : earlier <:+ before) : groupsOf earlier ≤ groupsOf before := by
  induction before with
  | nil =>
    obtain rfl := List.suffix_nil.1 h
    exact Nat.le_refl _
  | cons f before ih =>
    rcases List.suffix_cons_iff.1 h with rfl | h
    · exact Nat.le_refl _
    · exact Nat.le_trans (ih h) (Nat.le_add_left _ _)

theorem names_le (h : ∀ e ∈ before, e.IsCounted) :
    ∀ p ∈ namesOf before, 1 ≤ p.2 ∧ p.2 ≤ groupsOf before := by
  induction before with
  | nil => simp [namesOf]
  | cons e before ih =>
    obtain ⟨he, hbefore⟩ := List.forall_mem_cons.1 h
    intro p hp
    rw [groupsOf]
    rcases List.mem_append.1 hp with hp | hp
    · have hbounds := ih hbefore p hp
      omega
    · obtain ⟨q, hq, rfl⟩ := List.mem_map.1 hp
      have hbounds := he.names q hq
      dsimp only
      omega

theorem opened_le (h : ∀ e ∈ before, e.IsCounted) :
    ∀ n ∈ openedOf before, 1 ≤ n ∧ n ≤ groupsOf before := by
  induction before with
  | nil => simp [openedOf]
  | cons e before ih =>
    obtain ⟨he, hbefore⟩ := List.forall_mem_cons.1 h
    intro n hn
    rw [groupsOf]
    rcases List.mem_append.1 hn with hn | hn
    · obtain ⟨m, hm, rfl⟩ := List.mem_map.1 hn
      have hbounds := he.opened m hm
      omega
    · have hbounds := ih hbefore n hn
      omega

theorem lookup_namesOf (hsuffix : e :: earlier <:+ before) {key : String} {n : Nat}
    (hkey : e.names.lookup key = some n) (hnone : (namesOf earlier).lookup key = none) :
    (namesOf before).lookup key = some (n + groupsOf earlier) := by
  induction before with
  | nil => simp at hsuffix
  | cons f before ih =>
    rw [namesOf, List.lookup_append]
    rcases List.suffix_cons_iff.1 hsuffix with heq | hsuffix
    · obtain ⟨rfl, rfl⟩ := List.cons.inj heq
      rw [hnone, lookup_shifted, hkey]
      rfl
    · rw [ih hsuffix]
      rfl

theorem count_map_add (ns : List Nat) (i n : Nat) : (ns.map (· + n)).count (i + n) = ns.count i := by
  induction ns with
  | nil => rfl
  | cons m ns ih => simp [List.count_cons, ih]

theorem count_openedOf (h : ∀ e ∈ before, e.IsCounted) (hsuffix : e :: earlier <:+ before) {i : Nat}
    (hi : 1 ≤ i ∧ i ≤ e.groupCount) :
    (openedOf before).count (i + groupsOf earlier) = e.opened.count i := by
  induction before with
  | nil => simp at hsuffix
  | cons f before ih =>
    obtain ⟨hf, hbefore⟩ := List.forall_mem_cons.1 h
    rw [openedOf, List.count_append]
    rcases List.suffix_cons_iff.1 hsuffix with heq | hsuffix
    · obtain ⟨rfl, rfl⟩ := List.cons.inj heq
      have hnone : (openedOf earlier).count (i + groupsOf earlier) = 0 :=
        List.count_eq_zero.2 fun hmem => by
          have hbounds := opened_le hbefore _ hmem
          omega
      rw [hnone, Nat.add_zero]
      exact count_map_add _ _ _
    · have hle := groupsOf_suffix hsuffix
      have hnone : (f.opened.map (· + groupsOf before)).count (i + groupsOf earlier) = 0 :=
        List.count_eq_zero.2 fun hmem => by
          obtain ⟨m, hm, heq⟩ := List.mem_map.1 hmem
          have hbounds := hf.opened m hm
          rw [groupsOf] at hle
          omega
      rw [hnone, Nat.zero_add]
      exact ih hbefore hsuffix

theorem nodup_openedOf (h : ∀ e ∈ before, e.IsCounted) (hnodup : ∀ e ∈ before, e.opened.Nodup) :
    (openedOf before).Nodup := by
  induction before with
  | nil => exact List.nodup_nil
  | cons e before ih =>
    obtain ⟨he, hbefore⟩ := List.forall_mem_cons.1 h
    obtain ⟨hfirst, hrest⟩ := List.forall_mem_cons.1 hnodup
    refine List.nodup_append.2 ⟨?_, ih hbefore hrest, fun n hn m hm => ?_⟩
    · exact List.Pairwise.map _ (fun a b hne heq => hne (Nat.add_right_cancel heq)) hfirst
    · obtain ⟨k, hk, rfl⟩ := List.mem_map.1 hn
      have hown := he.opened k hk
      have hothers := opened_le hbefore m hm
      omega

/-! What is found among others -/

/-- Calls of groups by number, apart from the whole pattern. -/
def Reference.isNumberedCall : Reference → Bool
  | .call (.number n) _ => n ≠ 0
  | _ => false

/-- Names tell the groups of all patterns apart, and so do numbers if groups are called by number. -/
structure Distinguished (es : List Reader) : Prop where
  names : es.Pairwise Reader.NamesApart
  calls : (∀ e ∈ es, ∀ ref ∈ e.references, ref.isNumberedCall = false) ∨ ∀ e ∈ es, e.opened.Nodup

instance (es : List Reader) : Decidable (Distinguished es) :=
  decidable_of_iff
    (es.Pairwise Reader.NamesApart ∧
      ((∀ e ∈ es, ∀ ref ∈ e.references, ref.isNumberedCall = false) ∨ ∀ e ∈ es, e.opened.Nodup))
    ⟨fun h => ⟨h.1, h.2⟩, fun h => ⟨h.names, h.calls⟩⟩

theorem lookup_namesOf_eq_none {earlier : List Reader} {key : String}
    (h : ∀ f ∈ earlier, ∀ p ∈ f.names, p.1 ≠ key) : (namesOf earlier).lookup key = none := by
  induction earlier with
  | nil => rfl
  | cons f earlier ih =>
    obtain ⟨hf, hearlier⟩ := List.forall_mem_cons.1 h
    rw [namesOf, List.lookup_append, ih hearlier, lookup_shifted]
    have hnone : f.names.lookup key = none := List.lookup_eq_none_iff.2 fun p hp => by
      simpa using (hf p hp).symm
    rw [hnone]
    rfl

theorem lookup_among (hcounted : ∀ e ∈ before, e.IsCounted) (hdistinct : Distinguished before)
    (hsuffix : e :: earlier <:+ before) {key : String} {i : Nat}
    (hkey : e.names.lookup key = some i) :
    (namesOf before).lookup key = some (i + groupsOf earlier) ∧ 1 ≤ i ∧ i ≤ e.groupCount := by
  have hown : (key, i) ∈ e.names := mem_of_lookup hkey
  have hapart := (List.pairwise_cons.1 (hdistinct.names.sublist hsuffix.sublist)).1
  have hnone : (namesOf earlier).lookup key = none :=
    lookup_namesOf_eq_none fun f hf p hp => (hapart f hf _ hown p hp).symm
  exact ⟨lookup_namesOf hsuffix hkey hnone,
    (hcounted e (hsuffix.subset List.mem_cons_self)).names _ hown⟩

/-- A number that is called, be it that of a group of another pattern, is not that of two groups. -/
theorem count_called_le_one (hcounted : ∀ e ∈ before, e.IsCounted) (hdistinct : Distinguished before)
    (hmem : e ∈ before) {n left : Nat} (href : Reference.call (.number n) left ∈ e.references) :
    (openedOf before).count n ≤ 1 := by
  rcases hdistinct.calls with hcalls | hnodup
  · obtain rfl : n = 0 := by simpa [Reference.isNumberedCall] using hcalls e hmem _ href
    have hzero : (openedOf before).count 0 = 0 :=
      List.count_eq_zero.2 fun hmem => absurd (opened_le hcounted 0 hmem).1 (by decide)
    omega
  · exact List.nodup_iff_count_le_one.1 (nodup_openedOf hcounted hnodup) n

/-- What a pattern refers to by itself is there among the others. -/
theorem check_among (hcounted : ∀ e ∈ before, e.IsCounted) (hdistinct : Distinguished before)
    (hsuffix : e :: earlier <:+ before) {ref other : Reference}
    (href : ref ∈ e.references) (hbeside : ref.Beside (groupsOf earlier) other)
    (hcheck : ref.check e.groupCount e.names e.opened = .ok ()) :
    other.check (groupsOf before) (namesOf before) (openedOf before) = .ok () := by
  have hmem : e ∈ before := hsuffix.subset List.mem_cons_self
  have hgroups : e.groupCount + groupsOf earlier ≤ groupsOf before := groupsOf_suffix hsuffix
  cases hbeside with
  | back ref left left' =>
    obtain ⟨i, hi, hpositive, hle⟩ := Reference.check_back_iff.1 hcheck
    refine Reference.check_back_iff.2 ?_
    cases ref with
    | number n => exact ⟨i, hi, hpositive, by omega⟩
    | name s =>
      obtain ⟨hlookup, -⟩ := lookup_among hcounted hdistinct hsuffix hi
      exact ⟨_, hlookup, by omega, by omega⟩
  | condition ref left left' =>
    refine Reference.check_condition_iff.2 ?_
    cases ref with
    | number n =>
      obtain ⟨hnone, -⟩ | ⟨i, hi, hle⟩ := Reference.check_condition_iff.1 hcheck
      · cases hnone
      · exact .inr ⟨i, hi, by omega⟩
    | name s =>
      obtain ⟨hnone, hdefine⟩ | ⟨i, hi, hle⟩ := Reference.check_condition_iff.1 hcheck
      -- The pattern has no group of this name, but another pattern may have one.
      · cases hothers : (namesOf before).lookup s with
        | none => exact .inl ⟨hothers, hdefine⟩
        | some j =>
          exact .inr ⟨j, hothers, (names_le hcounted (s, j) (mem_of_lookup hothers)).2⟩
      · obtain ⟨hlookup, -⟩ := lookup_among hcounted hdistinct hsuffix hi
        exact .inr ⟨_, hlookup, by omega⟩
  | call ref left left' =>
    obtain ⟨i, hi, hle, hcount⟩ := Reference.check_call_iff.1 hcheck
    refine Reference.check_call_iff.2 ?_
    cases ref with
    | number n =>
      obtain rfl : n = i := Option.some.inj hi
      exact ⟨n, rfl, by omega, count_called_le_one hcounted hdistinct hmem href⟩
    | name s =>
      obtain ⟨hlookup, hbounds⟩ := lookup_among hcounted hdistinct hsuffix hi
      refine ⟨_, hlookup, by omega, ?_⟩
      rwa [count_openedOf hcounted hsuffix hbounds]
  | @relative n hn left left' =>
    obtain ⟨i, hi, hle, hcount⟩ := Reference.check_call_iff.1 hcheck
    obtain rfl : n = i := Option.some.inj hi
    exact Reference.check_call_iff.2 ⟨_, rfl, by omega, by
      rwa [count_openedOf hcounted hsuffix ⟨Nat.pos_of_ne_zero hn, hle⟩]⟩

end
end ReleaseMatch.Pattern
