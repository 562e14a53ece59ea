import ReleaseMatch.Proofs.Document.Members
set_option autoImplicit false

/-!
# Which documents are condition sets

A JSON value is a condition set exactly if it is a mapping with known keys only, each member of it and of
its conditions being of the form that belongs there. Nothing of it is lost: there is one condition for
each row, in their order, with what the row says, and a warning for each field that is not known.
-/
namespace ReleaseMatch.Document

/-! Rows -/

/-- The case flag is written in one spelling at most. -/
def OneSpelling (entries : Entries) : Prop :=
  Value.get? entries "caseSensitive" = none ∨ Value.get? entries "case_sensitive" = none

theorem OneSpelling.eq {entries : Entries} (h : OneSpelling entries) {key key' : String} {v v' : Value}
    (hkey : key ∈ caseKeys) (hkey' : key' ∈ caseKeys) (hget : Value.get? entries key = some v)
    (hget' : Value.get? entries key' = some v') : key = key' := by
  simp only [caseKeys, List.mem_cons, List.not_mem_nil, or_false] at hkey hkey'
  obtain hnone | hnone := h <;> obtain rfl | rfl := hkey <;> obtain rfl | rfl := hkey' <;> simp_all

inductive CaseFlag (entries : Entries) : Option Bool → Prop
  | given {key : String} {v : Value} {o : Option Bool} (hkey : key ∈ caseKeys)
      (hget : Value.get? entries key = some v) (h : Perhaps FlagFor v o) : CaseFlag entries o
  | absent (h : ∀ key ∈ caseKeys, Value.get? entries key = none) : CaseFlag entries none

theorem CaseFlag.of_get? {entries : Entries} {o : Option Bool} (h : CaseFlag entries o)
    (hspelling : OneSpelling entries) {key : String} {v : Value} (hkey : key ∈ caseKeys)
    (hget : Value.get? entries key = some v) : Perhaps FlagFor v o := by
  cases h with
  | given hkey' hget' hflag =>
    obtain rfl := hspelling.eq hkey hkey' hget hget'
    obtain rfl := Option.some.inj (hget.symm.trans hget')
    exact hflag
  | absent hnone => exact absurd (hnone key hkey) (by simp [hget])

theorem of_caseKey? {entries : Entries} {key : String} (h : caseKey? entries = some key) :
    key ∈ caseKeys ∧ ∃ v, Value.get? entries key = some v := by
  rw [caseKey?] at h
  have hsome := List.find?_some h
  exact ⟨List.mem_of_find?_eq_some h, Option.isSome_iff_exists.1 hsome⟩

def rowKeys : List String := ["id", "field", "operator", "value"] ++ caseKeys

structure IsRow (entries : Entries) : Prop where
  keys : KeysAmong rowKeys entries
  id : ∀ v, Value.get? entries "id" = some v → ∃ o, Perhaps IsText v o
  field : ∀ v, Value.get? entries "field" = some v → ∃ s, IsText v s
  operator : ∃ op : Operator, Value.get? entries "operator" = some (.text op.name)
  value : ∀ v, Value.get? entries "value" = some v → ∃ s, ShownAs v s
  caseSensitive : ∀ key ∈ caseKeys, ∀ v, Value.get? entries key = some v → ∃ o, Perhaps FlagFor v o

structure IsEntry (entries : Entries) (e : Entry) : Prop where
  keys : KeysAmong rowKeys entries
  id : Under entries "id" (Perhaps IsText) none e.id
  field : Under entries "field" IsText "releaseTitle" e.field
  operator : Value.get? entries "operator" = some (.text e.operator.name)
  value : Under entries "value" ShownAs "" e.value
  caseSensitive : CaseFlag entries e.caseSensitive

section

variable {entries : Entries} (hspelling : OneSpelling entries)

include hspelling

theorem exists_isEntry_iff : (∃ e, IsEntry entries e) ↔ IsRow entries := by
  constructor
  · rintro ⟨e, h⟩
    refine ⟨h.keys, exists_under_iff.1 ⟨_, h.id⟩, exists_under_iff.1 ⟨_, h.field⟩, ⟨_, h.operator⟩,
      exists_under_iff.1 ⟨_, h.value⟩, fun key hkey v hget => ?_⟩
    exact ⟨_, h.caseSensitive.of_get? hspelling hkey hget⟩
  · intro h
    obtain ⟨id, hid⟩ := exists_under_iff.2 h.id
    obtain ⟨field, hfield⟩ := exists_under_iff.2 h.field
    obtain ⟨operator, hoperator⟩ := h.operator
    obtain ⟨value, hvalue⟩ := exists_under_iff.2 h.value
    have hflag : ∃ o, CaseFlag entries o := by
      by_cases hnone : ∀ key ∈ caseKeys, Value.get? entries key = none
      · exact ⟨none, .absent hnone⟩
      · push Not at hnone
        obtain ⟨key, hkey, hsome⟩ := hnone
        obtain ⟨v, hget⟩ := Option.ne_none_iff_exists'.1 hsome
        obtain ⟨o, ho⟩ := h.caseSensitive key hkey v hget
        exact ⟨o, .given hkey hget ho⟩
    obtain ⟨flag, hflag⟩ := hflag
    exact ⟨⟨id, field, operator, value, flag⟩, h.keys, hid, hfield, hoperator, hvalue, hflag⟩

theorem keysAmong_rowKeys_iff :
    KeysAmong (["id", "field", "operator", "value"] ++ (caseKey? entries).toList) entries ↔
      KeysAmong rowKeys entries := by
  constructor
  · intro h e he
    obtain ⟨key, hkey, heq⟩ := h e he
    refine ⟨key, ?_, heq⟩
    rw [rowKeys, List.mem_append]
    refine (List.mem_append.1 hkey).imp_right fun hmem => ?_
    exact (of_caseKey? (Option.mem_toList.1 hmem)).1
  · intro h e he
    obtain ⟨key, hkey, heq⟩ := h e he
    refine ⟨key, ?_, heq⟩
    rw [rowKeys, List.mem_append] at hkey
    refine List.mem_append.2 (hkey.imp_right fun hmem => ?_)
    have hhere : (Value.get? entries key).isSome = true :=
      Value.get?_isSome_of_mem (v := e.2) (heq ▸ he)
    cases hfind : caseKey? entries with
    | none => exact absurd hhere (List.find?_eq_none.1 hfind key hmem)
    | some key' =>
      obtain ⟨v, hget⟩ := Option.isSome_iff_exists.1 hhere
      obtain ⟨hmem', v', hget'⟩ := of_caseKey? hfind
      obtain rfl := hspelling.eq hmem hmem' hget hget'
      simp

variable (hjson : (Value.map entries).IsJson)

include hjson

theorem readCase_eq_ok_iff {o : Option Bool} : readCase entries = .ok o ↔ CaseFlag entries o := by
  have hmember (key : String) : member entries key (optional readFlag) none = .ok o ↔
      Under entries key (Perhaps FlagFor) none o :=
    member_eq_ok_iff fun v hget _ =>
      optional_eq_ok_iff (fun _ => readFlag_eq_ok_iff (hjson.of_get? hget)) fun _ h => nomatch h
  rw [readCase]
  cases hfind : caseKey? entries with
  | none =>
    have hnone : ∀ key ∈ caseKeys, Value.get? entries key = none := by
      simpa using List.find?_eq_none.1 hfind
    constructor
    · intro h
      obtain rfl := Except.ok.inj h
      exact .absent hnone
    · rintro (⟨hkey, hget, -⟩ | -)
      · exact absurd (hnone _ hkey) (by simp [hget])
      · rfl
  | some key =>
    obtain ⟨hkey, v, hget⟩ := of_caseKey? hfind
    rw [hmember]
    constructor
    · rintro (⟨hget, h⟩ | hnone)
      · exact .given hkey hget h
      · exact absurd hnone (by simp [hget])
    · intro h
      exact .given hget (h.of_get? hspelling hkey hget)

theorem readEntry_eq_ok_iff {e : Entry} : readEntry (.map entries) = .ok e ↔ IsEntry entries e := by
  have hvalue {key : String} {v : Value} (hget : Value.get? entries key = some v) : v.IsJson :=
    hjson.of_get? hget
  have hoperator : (∃ v, Value.get? entries "operator" = some v ∧ readOperator v = .ok e.operator) ↔
      Value.get? entries "operator" = some (.text e.operator.name) := by
    constructor
    · rintro ⟨v, hget, hv⟩
      rw [hget, (readOperator_eq_ok_iff (hvalue hget)).1 hv]
    · intro hget
      exact ⟨_, hget, (readOperator_eq_ok_iff (hvalue hget)).2 rfl⟩
  have hid : member entries "id" (optional readText) none = .ok e.id ↔
      Under entries "id" (Perhaps IsText) none e.id :=
    member_eq_ok_iff fun v hget _ =>
      optional_eq_ok_iff (fun _ => readText_eq_ok_iff (hvalue hget)) fun _ h => nomatch h
  have hfield : member entries "field" readText "releaseTitle" = .ok e.field ↔
      Under entries "field" IsText "releaseTitle" e.field :=
    member_eq_ok_iff fun v hget _ => readText_eq_ok_iff (hvalue hget)
  have hshown : member entries "value" readValue "" = .ok e.value ↔
      Under entries "value" ShownAs "" e.value :=
    member_eq_ok_iff fun v hget _ => readValue_eq_ok_iff (hvalue hget)
  rw [readEntry_map_eq_ok_iff, hid, hfield, hoperator, hshown,
    readCase_eq_ok_iff hspelling hjson, checkKeys_eq_ok_iff, keysAmong_rowKeys_iff hspelling]
  exact ⟨fun ⟨hid, hfield, hoperator, hvalue, hflag, hkeys⟩ =>
      ⟨hkeys, hid, hfield, hoperator, hvalue, hflag⟩,
    fun h => ⟨h.id, h.field, h.operator, h.value, h.caseSensitive, h.keys⟩⟩

end

/-! Sheets -/

structure IsSheet (doc : Entries) : Prop where
  keys : KeysAmong ["combinator", "conditions"] doc
  combinator : ∀ v, Value.get? doc "combinator" = some v → ∃ o, Perhaps Joins v o
  conditions : ∀ v, Value.get? doc "conditions" = some v →
    ∃ rows, v = .list rows ∧ ∀ row ∈ rows, ∃ entries, row = .map entries ∧ IsRow entries

inductive RowOf : Value → Entry → Prop
  | map {entries : Entries} {e : Entry} (h : IsEntry entries e) : RowOf (.map entries) e

inductive RowsOf : Value → List Entry → Prop
  | list {rows : List Value} {es : List Entry} (h : List.Forall₂ RowOf rows es) :
      RowsOf (.list rows) es

structure IsSheetOf (doc : Entries) (s : Sheet) : Prop where
  keys : KeysAmong ["combinator", "conditions"] doc
  combinator : Under doc "combinator" (Perhaps Joins) none s.combinator
  conditions : Under doc "conditions" RowsOf [] s.conditions

def RowsHaveOneSpelling (doc : Entries) : Prop :=
  ∀ row ∈ rowsOf doc, ∀ entries, row = .map entries → OneSpelling entries

theorem rowsOf_eq {doc : Entries} {rows : List Value}
    (h : Value.get? doc "conditions" = some (.list rows)) : rowsOf doc = rows := by
  rw [rowsOf, h]

theorem exists_forall₂_iff {α β : Type} {R : α → β → Prop} {xs : List α} :
    (∃ ys, List.Forall₂ R xs ys) ↔ ∀ x ∈ xs, ∃ y, R x y := by
  induction xs with
  | nil => exact iff_of_true ⟨[], .nil⟩ (by simp)
  | cons x xs ih =>
    rw [List.forall_mem_cons, ← ih]
    constructor
    · rintro ⟨ys, hall⟩
      cases hall with
      | cons hx hxs => exact ⟨⟨_, hx⟩, ⟨_, hxs⟩⟩
    · rintro ⟨⟨y, hx⟩, ⟨ys, hxs⟩⟩
      exact ⟨y :: ys, .cons hx hxs⟩

section

variable {doc : Entries} (hspelling : RowsHaveOneSpelling doc)

include hspelling

theorem exists_isSheetOf_iff : (∃ s, IsSheetOf doc s) ↔ IsSheet doc := by
  have hrows {rows : List Value} (hget : Value.get? doc "conditions" = some (.list rows)) :
      (∃ es, RowsOf (.list rows) es) ↔
        ∀ row ∈ rows, ∃ entries, row = .map entries ∧ IsRow entries := by
    have hone {entries : Entries} (hmem : .map entries ∈ rows) : OneSpelling entries :=
      hspelling _ (by rwa [rowsOf_eq hget]) entries rfl
    constructor
    · rintro ⟨es, ⟨hall⟩⟩ row hmem
      obtain ⟨e, ⟨h⟩⟩ := exists_forall₂_iff.1 ⟨es, hall⟩ row hmem
      exact ⟨_, rfl, (exists_isEntry_iff (hone hmem)).1 ⟨e, h⟩⟩
    · intro h
      have heach : ∀ row ∈ rows, ∃ e, RowOf row e := by
        intro row hmem
        obtain ⟨entries, rfl, hrow⟩ := h row hmem
        obtain ⟨e, he⟩ := (exists_isEntry_iff (hone hmem)).2 hrow
        exact ⟨e, .map he⟩
      obtain ⟨es, hall⟩ := exists_forall₂_iff.2 heach
      exact ⟨es, .list hall⟩
  constructor
  · rintro ⟨s, h⟩
    refine ⟨h.keys, exists_under_iff.1 ⟨_, h.combinator⟩, fun v hget => ?_⟩
    obtain ⟨es, ⟨hall⟩⟩ := exists_under_iff.1 ⟨_, h.conditions⟩ v hget
    exact ⟨_, rfl, (hrows hget).1 ⟨es, .list hall⟩⟩
  · intro h
    obtain ⟨combinator, hcombinator⟩ := exists_under_iff.2 h.combinator
    have hconditions : ∃ es, Under doc "conditions" RowsOf [] es := by
      refine exists_under_iff.2 fun v hget => ?_
      obtain ⟨rows, rfl, heach⟩ := h.conditions v hget
      exact (hrows hget).2 heach
    obtain ⟨es, hes⟩ := hconditions
    exact ⟨⟨combinator, es⟩, h.keys, hcombinator, hes⟩

variable (hjson : (Value.map doc).IsJson)

include hjson

theorem readConditions_eq_ok_iff {v : Value} (hget : Value.get? doc "conditions" = some v)
    (es : List Entry) : readConditions v = .ok es ↔ RowsOf v es := by
  have hrow {rows : List Value} (hrows : v = .list rows) :
      ∀ row ∈ rows, ∀ e, readEntry row = .ok e ↔ RowOf row e := by
    intro row hmem e
    subst hrows
    have hone {entries : Entries} (hmap : row = .map entries) : OneSpelling entries :=
      hspelling _ (by rwa [rowsOf_eq hget]) entries hmap
    have hrowJson : row.IsJson := by
      cases hjson.of_get? hget with
      | list h => exact h row hmem
    constructor
    · intro h
      cases row with
      | map entries => exact .map ((readEntry_eq_ok_iff (hone rfl) hrowJson).1 h)
      | _ => exact absurd h (by simp [readEntry, refuse])
    · rintro ⟨h⟩
      exact (readEntry_eq_ok_iff (hone rfl) hrowJson).2 h
  -- The readers of the rows are exact only for rows of this document, hence the iff beside each row.
  constructor
  · intro h
    cases v with
    | list rows =>
      have hboth := (List.forall₂_and_left rows es).2 ⟨hrow rfl, readEntries_eq_ok_iff.1 h⟩
      exact .list (hboth.imp fun row e h => (h.1 e).1 h.2)
    | _ => exact absurd h (by simp [readConditions, refuse])
  · rintro ⟨h⟩
    have hboth := (List.forall₂_and_left _ es).2 ⟨hrow rfl, h⟩
    exact readEntries_eq_ok_iff.2 (hboth.imp fun row e h => (h.1 e).2 h.2)

theorem readSheet_eq_ok_iff_isSheetOf {s : Sheet} : readSheet doc = .ok s ↔ IsSheetOf doc s := by
  have hcombinator : member doc "combinator" readCombinator none = .ok s.combinator ↔
      Under doc "combinator" (Perhaps Joins) none s.combinator :=
    member_eq_ok_iff fun _ _ _ => readCombinator_eq_ok_iff
  have hconditions : member doc "conditions" readConditions [] = .ok s.conditions ↔
      Under doc "conditions" RowsOf [] s.conditions :=
    member_eq_ok_iff fun _ hget => readConditions_eq_ok_iff hspelling hjson hget
  rw [readSheet_eq_ok_iff, hcombinator, hconditions, checkKeys_eq_ok_iff]
  exact ⟨fun ⟨hcombinator, hconditions, hkeys⟩ => ⟨hkeys, hcombinator, hconditions⟩,
    fun h => ⟨h.combinator, h.conditions, h.keys⟩⟩

end

/-! Condition sets -/

structure IsCondition (defaults : Defaults) (index : Nat) (entries : Entries) (c : Condition) :
    Prop where
  id : Value.get? entries "id" = some (.text c.id) ∧ c.id ≠ "" ∨
    (∀ s, Value.get? entries "id" = some (.text s) → s = "") ∧ c.id = "c" ++ toString index
  field : Under entries "field" IsText "releaseTitle" c.field
  operator : Value.get? entries "operator" = some (.text c.operator.name)
  value : Under entries "value" ShownAs "" c.value
  caseSensitive : (∃ key ∈ caseKeys, ∃ v b, Value.get? entries key = some v ∧ FlagFor v b ∧
      c.caseSensitive = .bool b) ∨
    (∀ key ∈ caseKeys, ∀ v, Value.get? entries key = some v → v = .null) ∧
      c.caseSensitive = defaults.caseSensitive

theorem isCondition_of_isEntry {entries : Entries} {e : Entry} (h : IsEntry entries e)
    (hspelling : OneSpelling entries) (defaults : Defaults) (index : Nat) :
    IsCondition defaults index entries (e.condition defaults index) := by
  obtain ⟨id, field, operator, value, flag⟩ := e
  obtain ⟨-, hid, hfield, hoperator, hvalue, hflag⟩ := h
  refine ⟨?_, hfield, hoperator, hvalue, ?_⟩
  · cases hid with
    | absent hget => exact .inr ⟨fun s hs => absurd hs (by simp [hget]), rfl⟩
    | given hget h =>
      cases h with
      | null => exact .inr ⟨fun s hs => absurd hs (by simp [hget]), rfl⟩
      | @given _ s h =>
        cases h
        by_cases hempty : s = ""
        · refine .inr ⟨fun s' hs' => ?_, by simp [Entry.condition, hempty]⟩
          obtain rfl := Value.text.inj (Option.some.inj (hget.symm.trans hs'))
          exact hempty
        · exact .inl (by simpa [Entry.condition, hempty] using hget)
  · cases flag with
    | none =>
      refine .inr ⟨fun key hkey v hget => ?_, rfl⟩
      cases hflag.of_get? hspelling hkey hget
      rfl
    | some b =>
      cases hflag with
      | given hkey hget h =>
        cases h with
        | given h => exact .inl ⟨_, hkey, _, b, hget, h, rfl⟩

def warnings (set : ConditionSet) : List Notice :=
  (set.conditions.zipIdx.filter fun (c, _) => !Catalog.isKnown c.field).map fun (c, i) =>
    ⟨.warning, logger, "Condition " ++ toString i ++ " uses unknown field "
      ++ Text.quoted c.field ++ "; it is kept for display only"⟩

theorem zipIdx_fill (s : Sheet) (defaults : Defaults) : (s.fill defaults).conditions.zipIdx =
    s.conditions.zipIdx.map fun (e, i) => (e.condition defaults i, i) := by
  refine List.ext_getElem? fun i => ?_
  simp [Sheet.fill, List.getElem?_zipIdx, Function.comp_def]

theorem unknownFields_eq (s : Sheet) (defaults : Defaults) :
    unknownFields s = warnings (s.fill defaults) := by
  rw [warnings, zipIdx_fill, List.filter_map, List.map_map, ← List.filterMap_eq_map,
    List.filterMap_filter, unknownFields]
  refine List.filterMap_congr fun (e, i) _ => ?_
  cases hknown : Catalog.isKnown e.field <;> simp [Entry.condition, hknown]

structure IsLoaded (defaults : Defaults) (doc : Entries) (set : ConditionSet) : Prop where
  combinator : (∃ v, Value.get? doc "combinator" = some v ∧ Joins v set.combinator) ∨
    (∀ v, Value.get? doc "combinator" = some v → v = .null) ∧ set.combinator = defaults.combinator
  length : set.conditions.length = (rowsOf doc).length
  condition (i : Nat) (c : Condition) : set.conditions[i]? = some c →
    ∃ entries, (rowsOf doc)[i]? = some (.map entries) ∧ IsCondition defaults i entries c

theorem isLoaded_fill {doc : Entries} {s : Sheet} (h : IsSheetOf doc s)
    (hspelling : RowsHaveOneSpelling doc) (defaults : Defaults) :
    IsLoaded defaults doc (s.fill defaults) := by
  obtain ⟨combinator, es⟩ := s
  obtain ⟨-, hcombinator, hconditions⟩ := h
  have hrows : List.Forall₂ RowOf (rowsOf doc) es := by
    cases hconditions with
    | absent hget =>
      rw [rowsOf, hget]
      exact .nil
    | given hget h =>
      obtain ⟨h⟩ := h
      rwa [rowsOf_eq hget]
  refine ⟨?_, by simp [Sheet.fill, hrows.length_eq], fun i c hc => ?_⟩
  · cases combinator with
    | none =>
      refine .inr ⟨fun v hget => ?_, rfl⟩
      cases hcombinator with
      | absent hnone => exact absurd hnone (by simp [hget])
      | given hget' h =>
        obtain rfl := Option.some.inj (hget.symm.trans hget')
        cases h
        rfl
    | some combinator =>
      cases hcombinator with
      | given hget h =>
        cases h with
        | given h => exact .inl ⟨_, hget, h⟩
  · obtain ⟨e, he, rfl⟩ : ∃ e, es[i]? = some e ∧ e.condition defaults i = c := by
      simpa [Sheet.fill, List.getElem?_zipIdx] using hc
    obtain ⟨hlt, rfl⟩ := List.getElem?_eq_some_iff.1 he
    have hlt' : i < (rowsOf doc).length := hrows.length_eq.symm ▸ hlt
    have hrow : RowOf (rowsOf doc)[i] es[i] := hrows.get hlt' hlt
    generalize hget : (rowsOf doc)[i] = row at hrow
    have hplace : (rowsOf doc)[i]? = some row := List.getElem?_eq_some_iff.2 ⟨hlt', hget⟩
    cases hrow with
    | @map entries _ h =>
      have hone := hspelling _ (List.mem_of_getElem? hplace) entries rfl
      exact ⟨entries, hplace, isCondition_of_isEntry h hone defaults i⟩

/-- A JSON value that writes the case flags in one spelling each is a condition set exactly if it is a
mapping of the form of one; and the condition set has all that is written there, with a warning for each
field that is not known. -/
theorem load_follows_schema (data : Value) (defaults : Defaults) (hjson : data.IsJson)
    (hspelling : ∀ doc, data = .map doc → RowsHaveOneSpelling doc) :
    ((∃ set, (load data defaults).result = .ok set) ↔ ∃ doc, data = .map doc ∧ IsSheet doc) ∧
    ∀ set, (load data defaults).result = .ok set → ∃ doc, data = .map doc ∧
      IsLoaded defaults doc set ∧ (load data defaults).notices = warnings set ++ [summary set] := by
  constructor
  · constructor
    · rintro ⟨set, hset⟩
      obtain ⟨doc, sheet, rfl, hread, -⟩ := of_load hset
      have hsheet := (readSheet_eq_ok_iff_isSheetOf (hspelling doc rfl) hjson).1 hread
      exact ⟨doc, rfl, (exists_isSheetOf_iff (hspelling doc rfl)).1 ⟨sheet, hsheet⟩⟩
    · rintro ⟨doc, rfl, h⟩
      obtain ⟨sheet, hsheet⟩ := (exists_isSheetOf_iff (hspelling doc rfl)).2 h
      have hread := (readSheet_eq_ok_iff_isSheetOf (hspelling doc rfl) hjson).2 hsheet
      exact ⟨sheet.fill defaults, by rw [load, hread]⟩
  · intro set hset
    obtain ⟨doc, sheet, rfl, hread, rfl⟩ := of_load hset
    have hsheet := (readSheet_eq_ok_iff_isSheetOf (hspelling doc rfl) hjson).1 hread
    refine ⟨doc, rfl, isLoaded_fill hsheet (hspelling doc rfl) defaults, ?_⟩
    rw [load, hread, ← unknownFields_eq]

/-- A document in mixed spellings, with a field that is not in the catalog. -/
def mixedSheet : Value :=
  .map [(.text "combinator", .text "or"),
    (.text "conditions", .list [
      .map [(.text "operator", .text "contains"), (.text "value", .int 1080), (.text "id", .text "")],
      .map [(.text "field", .text "codec"), (.text "operator", .text "equals"),
        (.text "value", .bool true), (.text "caseSensitive", .text "YES")]])]

theorem mixedSheet_loads : ∃ set, (load mixedSheet {}).result = .ok set ∧
    ∃ doc, mixedSheet = .map doc ∧ IsLoaded {} doc set ∧
      (load mixedSheet {}).notices = warnings set ++ [summary set] := by
  have hrow {row : Entries} (hkeys : ∀ e ∈ row, ∃ key, e.1 = .text key)
      (h : ∀ e ∈ row, (∃ b, e.2 = .bool b) ∨ (∃ n, e.2 = .int n) ∨ ∃ s, e.2 = .text s) :
      (Value.map row).IsJson := by
    refine .map hkeys fun e he => ?_
    obtain ⟨_, heq⟩ | ⟨_, heq⟩ | ⟨_, heq⟩ := h e he <;> rw [heq] <;> constructor
  have hjson : mixedSheet.IsJson := by
    refine .map (by simp) (List.forall_mem_cons.2 ⟨.text _, List.forall_mem_singleton.2 (.list ?_)⟩)
    exact List.forall_mem_cons.2 ⟨hrow (by simp) (by simp), List.forall_mem_singleton.2
      (hrow (by simp) (by simp))⟩
  have hspelling : ∀ doc, mixedSheet = .map doc → RowsHaveOneSpelling doc := by
    rintro _ ⟨⟩ row hrow entries rfl
    change Value.map entries ∈ [_, _] at hrow
    obtain h | h := List.mem_pair.1 hrow <;> cases h <;> exact .inr rfl
  obtain ⟨set, hset⟩ := exists_ok_of_isSome (x := (load mixedSheet {}).result) (by decide +kernel)
  exact ⟨set, hset, (load_follows_schema mixedSheet {} hjson hspelling).2 set hset⟩

end ReleaseMatch.Document
