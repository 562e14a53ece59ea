import Mathlib.Data.List.Forall2
import ReleaseMatch.Document.File
import ReleaseMatch.Proofs.Settings.Sources
set_option autoImplicit false

/-!
# What documents say themselves

A condition set that loads comes from a mapping, and each of its conditions from a row of it. Its
combinator and the case flags are those that are written there; where they are left out, or null,
defaults stand in.
-/
namespace ReleaseMatch.Document

/-- What counts as given. -/
def unlessNull : Value → Option Value
  | .null => none
  | v => some v

def ownCombinator? (doc : Entries) : Option Value :=
  (Value.get? doc "combinator").bind unlessNull

/-- The rows of a document that conditions are made of. -/
def rowsOf (doc : Entries) : List Value :=
  match Value.get? doc "conditions" with
  | some (.list rows) => rows
  | _ => []

def ownFlag? (row : Value) : Option Value :=
  (caseKeys.findSome? row.field?).bind unlessNull

def flagIn (v : Value) : Option Value := (readFlag v).toOption.map .bool

theorem member_eq_ok {α : Type} {entries : Entries} {key : String} {read : Value → Checked α}
    {absent a : α} (h : member entries key read absent = .ok a) :
    Value.get? entries key = none ∧ a = absent ∨
      ∃ v, Value.get? entries key = some v ∧ read v = .ok a := by
  rw [member] at h
  cases hget : Value.get? entries key with
  | none =>
    rw [hget] at h
    exact .inl ⟨rfl, (Except.ok.inj h).symm⟩
  | some v =>
    rw [hget] at h
    exact .inr ⟨v, rfl, mapError_eq_ok_iff.1 h⟩

theorem named_of_readCombinator {v : Value} {c : Option Combinator} (h : readCombinator v = .ok c) :
    c.map some = (unlessNull v).map Settings.named := by
  cases v with
  | null =>
    obtain rfl := Except.ok.inj h
    rfl
  | text s =>
    rw [readCombinator] at h
    cases hname : Combinator.ofName? (Text.uppered s) with
    | none => simp [hname, refuse] at h
    | some d =>
      simp only [hname, Except.ok.injEq] at h
      subst h
      exact congrArg some hname.symm
  | _ => simp [readCombinator, refuse] at h

theorem optional_eq {α : Type} {read : Value → Checked α} {v : Value} (h : unlessNull v = some v) :
    optional read v = (read v).map some := by
  cases v with
  | null => exact absurd h (by simp [unlessNull])
  | _ => rfl

theorem flagIn_of_optional {v : Value} {b : Option Bool} (h : optional readFlag v = .ok b) :
    b.map (fun b => some (.bool b)) = (unlessNull v).map flagIn := by
  cases hnull : unlessNull v with
  | none =>
    cases v with
    | null =>
      obtain rfl := Except.ok.inj h
      rfl
    | _ => exact absurd hnull (by simp [unlessNull])
  | some w =>
    obtain rfl : v = w := by
      cases v with
      | null => exact absurd hnull (by simp [unlessNull])
      | _ => exact Option.some.inj hnull
    rw [optional_eq hnull] at h
    obtain ⟨b, hb, rfl⟩ := map_eq_ok_iff.1 h
    exact congrArg some (congrArg (Option.map Value.bool) (toOption_eq_some.2 hb)).symm

theorem findSome?_eq_bind_find? {α β : Type} (f : α → Option β) (xs : List α) :
    xs.findSome? f = (xs.find? fun x => (f x).isSome).bind f := by
  induction xs with
  | nil => rfl
  | cons x xs ih =>
    cases h : f x with
    | none => simpa [h] using ih
    | some b => simp [h]

def readCase (entries : Entries) : Checked (Option Bool) :=
  match caseKey? entries with
  | some key => member entries key (optional readFlag) none
  | none => .ok none

theorem readEntry_map (entries : Entries) : readEntry (.map entries) = (do
    let id ← member entries "id" (optional readText) none
    let field ← member entries "field" readText "releaseTitle"
    let operator ←
      match Value.get? entries "operator" with
      | some v => at_ "operator" (readOperator v)
      | none => .error ⟨["operator"], .missing⟩
    let value ← member entries "value" readValue ""
    let caseSensitive ← readCase entries
    checkKeys (["id", "field", "operator", "value"] ++ (caseKey? entries).toList) entries
    return { id, field, operator, value, caseSensitive }) := by
  rw [readEntry, readCase]
  cases caseKey? entries <;> rfl

theorem readEntry_map_eq_ok_iff {entries : Entries} {e : Entry} : readEntry (.map entries) = .ok e ↔
    member entries "id" (optional readText) none = .ok e.id ∧
    member entries "field" readText "releaseTitle" = .ok e.field ∧
    (∃ v, Value.get? entries "operator" = some v ∧ readOperator v = .ok e.operator) ∧
    member entries "value" readValue "" = .ok e.value ∧ readCase entries = .ok e.caseSensitive ∧
    checkKeys (["id", "field", "operator", "value"] ++ (caseKey? entries).toList) entries =
      .ok () := by
  rw [readEntry_map]
  constructor
  · intro h
    obtain ⟨id, hid, h⟩ := bind_eq_ok.1 h
    obtain ⟨field, hfield, h⟩ := bind_eq_ok.1 h
    cases hget : Value.get? entries "operator" with
    | none => simp [hget, bind, Except.bind] at h
    | some v =>
      simp only [hget] at h
      obtain ⟨operator, hoperator, h⟩ := bind_eq_ok.1 h
      obtain ⟨value, hvalue, h⟩ := bind_eq_ok.1 h
      obtain ⟨flag, hflag, h⟩ := bind_eq_ok.1 h
      obtain ⟨⟨⟩, hkeys, h⟩ := bind_eq_ok.1 h
      obtain rfl := Except.ok.inj h
      exact ⟨hid, hfield, ⟨v, rfl, mapError_eq_ok_iff.1 hoperator⟩, hvalue, hflag, hkeys⟩
  · rintro ⟨hid, hfield, ⟨v, hget, hoperator⟩, hvalue, hflag, hkeys⟩
    refine bind_eq_ok.2 ⟨_, hid, bind_eq_ok.2 ⟨_, hfield, ?_⟩⟩
    simp only [hget]
    refine bind_eq_ok.2 ⟨_, mapError_eq_ok_iff.2 hoperator, bind_eq_ok.2 ⟨_, hvalue, ?_⟩⟩
    exact bind_eq_ok.2 ⟨_, hflag, bind_eq_ok.2 ⟨_, hkeys, rfl⟩⟩

theorem caseSensitive_of_readEntry {row : Value} {e : Entry} (h : readEntry row = .ok e) :
    e.caseSensitive.map (fun b => some (.bool b)) = (ownFlag? row).map flagIn := by
  cases row with
  | map entries =>
    obtain ⟨-, -, -, -, hflag, -⟩ := readEntry_map_eq_ok_iff.1 h
    have hfind : caseKeys.findSome? (Value.map entries).field? =
        (caseKey? entries).bind (Value.get? entries) := findSome?_eq_bind_find? ..
    rw [ownFlag?, hfind]
    rw [readCase] at hflag
    cases hkey : caseKey? entries with
    | none =>
      rw [hkey] at hflag
      rw [← Except.ok.inj hflag]
      rfl
    | some key =>
      simp only [hkey] at hflag
      rw [Option.bind_some]
      obtain ⟨hget, hnone⟩ | ⟨v, hget, hread⟩ := member_eq_ok hflag
      · rw [hget, hnone]
        rfl
      · rw [hget]
        exact flagIn_of_optional hread
  | _ => exact absurd h (by simp [readEntry, refuse])

theorem readEntries_eq_ok_iff {rows : List Value} {es : List Entry} {index : Nat} :
    readEntries index rows = .ok es ↔
      List.Forall₂ (fun row e => readEntry row = .ok e) rows es := by
  induction rows generalizing index es with
  | nil => simp [readEntries, List.forall₂_nil_left_iff, eq_comm]
  | cons row rows ih =>
    constructor
    · intro h
      obtain ⟨e, he, h⟩ := bind_eq_ok.1 h
      obtain ⟨rest, hrest, h⟩ := bind_eq_ok.1 h
      obtain rfl := Except.ok.inj h
      exact .cons (mapError_eq_ok_iff.1 he) (ih.1 hrest)
    · rintro (_ | ⟨he, hrest⟩)
      exact bind_eq_ok.2 ⟨_, mapError_eq_ok_iff.2 he, bind_eq_ok.2 ⟨_, ih.2 hrest, rfl⟩⟩

theorem readSheet_eq_ok_iff {doc : Entries} {sheet : Sheet} : readSheet doc = .ok sheet ↔
    member doc "combinator" readCombinator none = .ok sheet.combinator ∧
    member doc "conditions" readConditions [] = .ok sheet.conditions ∧
    checkKeys ["combinator", "conditions"] doc = .ok () := by
  constructor
  · intro h
    obtain ⟨combinator, hcombinator, h⟩ := bind_eq_ok.1 h
    obtain ⟨conditions, hconditions, h⟩ := bind_eq_ok.1 h
    obtain ⟨⟨⟩, hkeys, h⟩ := bind_eq_ok.1 h
    obtain rfl := Except.ok.inj h
    exact ⟨hcombinator, hconditions, hkeys⟩
  · rintro ⟨hcombinator, hconditions, hkeys⟩
    exact bind_eq_ok.2 ⟨_, hcombinator, bind_eq_ok.2 ⟨_, hconditions, bind_eq_ok.2 ⟨_, hkeys, rfl⟩⟩⟩

theorem of_readSheet {doc : Entries} {sheet : Sheet} (h : readSheet doc = .ok sheet) :
    sheet.combinator.map some = (ownCombinator? doc).map Settings.named ∧
    List.Forall₂ (fun row e => readEntry row = .ok e) (rowsOf doc) sheet.conditions := by
  obtain ⟨hcombinator, hconditions, -⟩ := readSheet_eq_ok_iff.1 h
  constructor
  · rw [ownCombinator?]
    obtain ⟨hget, hnone⟩ | ⟨v, hget, hread⟩ := member_eq_ok hcombinator
    · rw [hget, hnone]
      rfl
    · rw [hget]
      exact named_of_readCombinator hread
  · rw [rowsOf]
    obtain ⟨hget, hnil⟩ | ⟨v, hget, hread⟩ := member_eq_ok hconditions
    · rw [hget, hnil]
      exact .nil
    · rw [hget]
      cases v with
      | list rows => exact readEntries_eq_ok_iff.1 hread
      | _ => exact absurd hread (by simp [readConditions, refuse])

theorem caseSensitive_fill {doc : Entries} {sheet : Sheet} (h : readSheet doc = .ok sheet)
    (defaults : Defaults) :
    (sheet.fill defaults).conditions.map (fun c => some c.caseSensitive) =
      (rowsOf doc).map fun row =>
        firstOf [(ownFlag? row).map flagIn] (some defaults.caseSensitive) := by
  have hrows := (of_readSheet h).2
  have hfill : (sheet.fill defaults).conditions.map (fun c => some c.caseSensitive) =
      sheet.conditions.map fun e =>
        firstOf [e.caseSensitive.map fun b => some (.bool b)] (some defaults.caseSensitive) := by
    have hentry (e : Entry) (index : Nat) : some (e.condition defaults index).caseSensitive =
        firstOf [e.caseSensitive.map fun b => some (.bool b)] (some defaults.caseSensitive) := by
      rw [Entry.condition]
      cases e.caseSensitive <;> rfl
    simp only [Sheet.fill, List.map_map, Function.comp_def, hentry]
    have hfst := congrArg (List.map fun e : Entry =>
      firstOf [e.caseSensitive.map fun b => some (.bool b)] (some defaults.caseSensitive))
      (List.zipIdx_map_fst 0 sheet.conditions)
    rwa [List.map_map] at hfst
  rw [hfill]
  generalize rowsOf doc = rows, sheet.conditions = es at hrows
  induction hrows with
  | nil => rfl
  | cons hread _ ih => rw [List.map_cons, List.map_cons, ih, caseSensitive_of_readEntry hread]

theorem combinator_fill {doc : Entries} {sheet : Sheet} (h : readSheet doc = .ok sheet)
    (defaults : Defaults) :
    some (sheet.fill defaults).combinator =
      firstOf [(ownCombinator? doc).map Settings.named] (some defaults.combinator) := by
  rw [← (of_readSheet h).1, Sheet.fill]
  cases sheet.combinator <;> rfl

theorem of_load {data : Value} {defaults : Defaults} {set : ConditionSet}
    (h : (load data defaults).result = .ok set) :
    ∃ doc sheet, data = .map doc ∧ readSheet doc = .ok sheet ∧ set = sheet.fill defaults := by
  cases data with
  | map doc =>
    simp only [load] at h
    cases hread : readSheet doc with
    | error f => simp [hread] at h
    | ok sheet =>
      simp only [hread, Except.ok.injEq] at h
      exact ⟨doc, sheet, rfl, hread, h.symm⟩
  | _ => exact absurd h (by simp [load])

theorem of_loadFile {tree : Files.Tree} {path : String} {defaults : Defaults} {set : ConditionSet}
    (h : (loadFile tree path defaults).result = .ok set) :
    ∃ doc sheet, readData tree path = .ok (.map doc) ∧ readSheet doc = .ok sheet ∧
      set = sheet.fill defaults := by
  rw [loadFile] at h
  cases hdata : readData tree path with
  | error f => simp [hdata] at h
  | ok data =>
    simp only [hdata] at h
    obtain ⟨doc, sheet, rfl, hread, hset⟩ := of_load (mapError_eq_ok_iff.1 h)
    exact ⟨doc, sheet, rfl, hread, hset⟩

end ReleaseMatch.Document
