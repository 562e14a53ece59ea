import ReleaseMatch.Proofs.Document.Members
import ReleaseMatch.Proofs.Yaml.Frame
set_option autoImplicit false

/-!
# Rows with another value

What the value of a row is counts for the value of its condition alone: with another one that can be shown as a
text, the same conditions come of a document, but that one has the other text for its value.
-/
namespace ReleaseMatch

open Yaml

/-! Entries of mappings -/

section

variable {key key' : String} {front back : List (Value × Value)}

theorem Value.get?_filled (hfront : WithoutKey key front) (v : Value) :
    get? (front ++ (.text key, v) :: back) key = some v := by
  induction front with
  | nil => rw [List.nil_append, get?, if_pos rfl]
  | cons e front ih =>
    obtain ⟨hk, hfront⟩ := List.forall_mem_cons.1 hfront
    rw [List.cons_append, get?_cons_of_ne hk, ih hfront]

theorem Value.get?_filled_of_ne (hne : key' ≠ key) (v : Value) :
    get? (front ++ (.text key, v) :: back) key' = get? (front ++ back) key' := by
  induction front with
  | nil => exact get?_cons_of_ne fun heq => hne (Value.text.inj heq).symm
  | cons e front ih =>
    obtain ⟨k, w⟩ := e
    by_cases hk : k = .text key'
    · rw [hk, List.cons_append, List.cons_append, get?, get?, if_pos rfl, if_pos rfl]
    · rw [List.cons_append, List.cons_append, get?_cons_of_ne hk, get?_cons_of_ne hk, ih]

namespace Document

theorem member_filled_of_ne {α : Type} (hne : key' ≠ key) (v : Value) (read : Value → Checked α) (absent : α) :
    member (front ++ (.text key, v) :: back) key' read absent = member (front ++ back) key' read absent := by
  rw [member, member, Value.get?_filled_of_ne hne]

theorem member_filled {α : Type} (hfront : WithoutKey key front) (v : Value) (read : Value → Checked α) (absent : α) :
    member (front ++ (.text key, v) :: back) key read absent = at_ key (read v) := by
  rw [member, Value.get?_filled hfront]

theorem checkKeys_filled (known : List String) (v w : Value) :
    checkKeys known (front ++ (.text key, v) :: back) = checkKeys known (front ++ (.text key, w) :: back) := by
  induction front with
  | nil => rfl
  | cons e front ih =>
    obtain ⟨k, u⟩ := e
    cases k with
    | text s => rw [List.cons_append, List.cons_append, checkKeys, checkKeys, ih]
    | _ => rfl

theorem readCase_filled (front back : Entries) (v : Value) :
    caseKey? (front ++ (.text "value", v) :: back) = caseKey? (front ++ back) ∧
    readCase (front ++ (.text "value", v) :: back) = readCase (front ++ back) := by
  have hcase : caseKey? (front ++ (.text "value", v) :: back) = caseKey? (front ++ back) := by
    simp only [caseKey?, caseKeys, List.find?_cons, List.find?_nil,
      Value.get?_filled_of_ne (show "caseSensitive" ≠ "value" by decide),
      Value.get?_filled_of_ne (show "case_sensitive" ≠ "value" by decide)]
  refine ⟨hcase, ?_⟩
  rw [readCase, readCase, hcase]
  cases hfind : caseKey? (front ++ back) with
  | none => rfl
  | some key =>
    have hmem : key ∈ caseKeys := List.mem_of_find?_eq_some hfind
    refine member_filled_of_ne ?_ v _ _
    rintro rfl
    exact absurd hmem (by decide)

end Document

end

namespace Document

/-! Rows and sheets -/

def Entry.withValue (e : Entry) (value : String) : Entry := { e with value }

def Sheet.withValue (s : Sheet) (index : Nat) (value : String) : Sheet :=
  { s with conditions := s.conditions.modify index (·.withValue value) }

def ConditionSet.withValue (s : ConditionSet) (index : Nat) (value : String) : ConditionSet :=
  { s with conditions := s.conditions.modify index fun c => { c with value } }

section

variable {front back : Entries} (hfront : WithoutKey "value" front) {v w : Value}

include hfront

theorem readEntry_filled {value : String} (hv : readValue v = .ok value) {e : Entry}
    (h : readEntry (.map (front ++ (.text "value", w) :: back)) = .ok e) :
    readEntry (.map (front ++ (.text "value", v) :: back)) = .ok (e.withValue value) := by
  obtain ⟨hid, hfield, ⟨op, hget, hoperator⟩, -, hflag, hkeys⟩ := readEntry_map_eq_ok_iff.1 h
  obtain ⟨hcase, hread⟩ := readCase_filled front back w
  obtain ⟨hcase', hread'⟩ := readCase_filled front back v
  rw [member_filled_of_ne (by decide)] at hid hfield
  rw [Value.get?_filled_of_ne (by decide)] at hget
  rw [hread] at hflag
  rw [hcase, checkKeys_filled _ w v] at hkeys
  refine readEntry_map_eq_ok_iff.2 ⟨?_, ?_, ⟨op, ?_, hoperator⟩, ?_, ?_, ?_⟩
  · rw [member_filled_of_ne (by decide)]
    exact hid
  · rw [member_filled_of_ne (by decide)]
    exact hfield
  · rw [Value.get?_filled_of_ne (by decide)]
    exact hget
  · rw [member_filled hfront, hv]
    rfl
  · rw [hread']
    exact hflag
  · rw [hcase']
    exact hkeys

theorem readValue_of_readEntry_filled {e : Entry}
    (h : readEntry (.map (front ++ (.text "value", v) :: back)) = .ok e) : readValue v = .ok e.value := by
  obtain ⟨-, -, -, hvalue, -⟩ := readEntry_map_eq_ok_iff.1 h
  rw [member_filled hfront] at hvalue
  exact mapError_eq_ok_iff.1 hvalue

end

theorem readEntries_modify {row row' : Value} {f : Entry → Entry}
    (hrow : ∀ e, readEntry row = .ok e → readEntry row' = .ok (f e)) {above below : List Value} {index : Nat}
    {es : List Entry} (h : readEntries index (above ++ row :: below) = .ok es) :
    readEntries index (above ++ row' :: below) = .ok (es.modify above.length f) := by
  rw [readEntries_eq_ok_iff] at h ⊢
  induction above generalizing es with
  | nil =>
    cases h with
    | cons h hs => exact .cons (hrow _ h) hs
  | cons r above ih =>
    cases h with
    | cons h hs => exact .cons h (ih hs)

theorem of_readEntries {row : Value} {above below : List Value} {index : Nat} {es : List Entry}
    (h : readEntries index (above ++ row :: below) = .ok es) : ∃ e, readEntry row = .ok e := by
  rw [readEntries_eq_ok_iff] at h
  induction above generalizing es with
  | nil =>
    cases h with
    | cons h hs => exact ⟨_, h⟩
  | cons r above ih =>
    cases h with
    | cons h hs => exact ih hs

theorem fill_withValue (s : Sheet) (defaults : Defaults) (index : Nat) (value : String) :
    (s.withValue index value).fill defaults = (s.fill defaults).withValue index value := by
  rw [Sheet.fill, ConditionSet.withValue, ConditionSet.mk.injEq]
  refine ⟨List.ext_getElem? fun i => ?_, rfl⟩
  simp only [Sheet.withValue, Sheet.fill, List.getElem?_map, List.getElem?_zipIdx, List.getElem?_modify]
  cases s.conditions[i]? with
  | none => split <;> rfl
  | some e => split <;> rfl

/-- What documents hold that differ in the value of one row alone. -/
inductive Differ (v w : Value) : Nat → Value → Value → Prop
  | mk {front back row more : Entries} {above below : List Value} (hfront : WithoutKey "conditions" front)
      (hrow : WithoutKey "value" row) : Differ v w above.length
        (.map (front ++ (.text "conditions", .list (above ++ .map (row ++ (.text "value", v) :: more) :: below)) :: back))
        (.map (front ++ (.text "conditions", .list (above ++ .map (row ++ (.text "value", w) :: more) :: below)) :: back))

section

variable {v w : Value} {index : Nat} {data data' : Value} {defaults : Defaults} {set : ConditionSet}

theorem Differ.loads (h : Differ v w index data data') {value : String} (hv : readValue v = .ok value)
    (hset : (load data' defaults).result = .ok set) :
    (load data defaults).result = .ok (set.withValue index value) := by
  obtain ⟨doc, sheet, hdoc, hread, rfl⟩ := of_load hset
  cases h with
  | @mk front back row more above below hfront hrow =>
    obtain rfl := Value.map.inj hdoc
    obtain ⟨hcombinator, hconditions, hkeys⟩ := readSheet_eq_ok_iff.1 hread
    rw [member_filled_of_ne (by decide)] at hcombinator
    rw [member_filled hfront] at hconditions
    have hread' : readSheet (front ++ (.text "conditions",
        .list (above ++ .map (row ++ (.text "value", v) :: more) :: below)) :: back) =
          .ok (sheet.withValue above.length value) := by
      refine readSheet_eq_ok_iff.2 ⟨?_, ?_, ?_⟩
      · rw [member_filled_of_ne (by decide)]
        exact hcombinator
      · rw [member_filled hfront]
        exact mapError_eq_ok_iff.2 (readEntries_modify (fun e he => readEntry_filled hrow hv he)
          (mapError_eq_ok_iff.1 hconditions))
      · rw [checkKeys_filled]
        exact hkeys
    rw [← fill_withValue]
    simp only [load, hread']

theorem Differ.readValue_of_loads (h : Differ v w index data data')
    (hset : (load data defaults).result = .ok set) : ∃ value, readValue v = .ok value := by
  obtain ⟨doc, sheet, hdoc, hread, rfl⟩ := of_load hset
  cases h with
  | mk hfront hrow =>
    obtain rfl := Value.map.inj hdoc
    obtain ⟨-, hconditions, -⟩ := readSheet_eq_ok_iff.1 hread
    rw [member_filled hfront] at hconditions
    obtain ⟨e, he⟩ := of_readEntries (mapError_eq_ok_iff.1 hconditions)
    exact ⟨e.value, readValue_of_readEntry_filled hrow he⟩

end

end Document
end ReleaseMatch
