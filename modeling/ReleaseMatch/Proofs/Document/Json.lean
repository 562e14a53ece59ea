import ReleaseMatch.Proofs.Document.Schema
import ReleaseMatch.Proofs.Json.Load
import ReleaseMatch.Proofs.Text.Utf8
set_option autoImplicit false

/-!
# Condition sets in JSON

What the schema accepts in a value, it accepts in what the JSON text of that value is read as: the numbers that
are read as text stand where they would be made one anyway. Values that are accepted are within the limits of
readers, so a file with the text of a value holds the same condition set as the value.
-/
namespace ReleaseMatch

open Number Yaml

/-! Mappings as they are read -/

namespace Value

variable {entries : List (Value × Value)} {key : String} {v : Value}

theorem get?_of_mem (hdistinct : (entries.map (·.1)).Nodup) (h : (.text key, v) ∈ entries) :
    get? entries key = some v := by
  induction entries with
  | nil => cases h
  | cons e entries ih =>
    obtain ⟨k, w⟩ := e
    rw [List.map_cons, List.nodup_cons] at hdistinct
    rcases List.mem_cons.1 h with heq | hmem
    · cases heq
      rw [get?, if_pos rfl]
    · have hne : k ≠ .text key := fun heq => hdistinct.1 (heq ▸ List.mem_map_of_mem (f := (·.1)) hmem)
      rw [get?_cons_of_ne hne, ih hdistinct.2 hmem]

theorem get?_asReadEntries (entries : List (Value × Value)) (key : String) :
    get? (asReadEntries entries) key = (get? entries key).map asRead := by
  induction entries with
  | nil => rfl
  | cons e entries ih =>
    obtain ⟨k, v⟩ := e
    rw [asReadEntries]
    by_cases hkey : k = .text key
    · rw [hkey, get?, get?, if_pos rfl, if_pos rfl]
      rfl
    · rw [get?_cons_of_ne hkey, get?_cons_of_ne hkey, ih]

end Value

/-! Numbers -/

theorem length_toDigits_le {n k : Nat} (hk : 0 < k) (h : (Nat.digits 10 n).length ≤ k) :
    (Nat.toDigits 10 n).length ≤ k :=
  Nat.toDigits_length 10 n k hk ((Nat.digits_length_le_iff (by decide) n).1 h)

section

variable {negative : Bool} {m : Nat} {e : Int}

theorem ratio_eq_of_toInt? {n : Int} (h : (Binary64.finite negative m e).toInt? = some n) :
    (Binary64.ratio m e).1 = n.natAbs * (Binary64.ratio m e).2 := by
  rw [Binary64.toInt?] at h
  dsimp only at h
  split at h
  · next hmod =>
    have hdiv := Nat.div_mul_cancel (Nat.dvd_of_mod_eq_zero hmod)
    obtain rfl := Option.some.inj h
    split
    · rw [Int.natAbs_neg, Int.natAbs_natCast, hdiv]
    · rw [Int.natAbs_natCast, hdiv]
  · cases h

theorem eq_zero_of_toInt? (h : (Binary64.finite negative m e).toInt? = some 0) : m = 0 := by
  have heq := ratio_eq_of_toInt? h
  rw [Int.natAbs_zero, Nat.zero_mul, Binary64.ratio] at heq
  exact (Nat.mul_eq_zero.1 heq).resolve_right (Nat.ne_of_gt (powRatio_fst_pos Nat.two_pos e))

theorem negative_of_toInt? {n : Int} (h : (Binary64.finite negative m e).toInt? = some n) (hn : 0 < n) :
    negative = false := by
  rw [Binary64.toInt?] at h
  dsimp only at h
  split at h
  · cases negative with
    | true =>
      have heq := Option.some.inj h
      rw [if_pos rfl] at heq
      have hnonneg := Int.natCast_nonneg ((Binary64.ratio m e).1 / (Binary64.ratio m e).2)
      omega
    | false => rfl
  · cases h

theorem eq_one_of_toInt? (hcanonical : Binary64.IsCanonical m e)
    (h : (Binary64.finite negative m e).toInt? = some 1) : negative = false ∧ m = 2 ^ 52 ∧ e = -52 := by
  have heq := ratio_eq_of_toInt? h
  rw [Int.natAbs_one, Nat.one_mul, Binary64.ratio, powRatio] at heq
  refine ⟨negative_of_toInt? h Int.one_pos, ?_⟩
  split at heq
  · next he =>
    obtain rfl : m = 1 := Nat.eq_one_of_mul_eq_one_right heq
    rcases hcanonical.normal with hlarge | rfl
    · exact absurd hlarge (by decide)
    · exact absurd he (by decide)
  · next he =>
    obtain ⟨k, rfl⟩ : ∃ k : Nat, e = -k := ⟨(-e).toNat, by omega⟩
    rw [neg_neg, Int.toNat_natCast] at heq
    obtain rfl : m = 2 ^ k := (Nat.mul_one m).symm.trans heq
    have hhigh : k < 53 := (Nat.pow_lt_pow_iff_right (by decide)).1 hcanonical.short
    have hlow : 52 ≤ k := by
      rcases hcanonical.normal with hlarge | hleast
      · exact (Nat.pow_le_pow_iff_right (by decide)).1 hlarge
      · omega
    obtain rfl : k = 52 := by omega
    exact ⟨rfl, rfl⟩

/-- The numbers that are read as flags have a point in their text. -/
theorem point_mem_of_flag (hcanonical : Binary64.IsCanonical m e) {b : Bool}
    (h : (Binary64.finite negative m e).toInt? = some (Document.flagNumber b)) :
    '.' ∈ (Binary64.finite negative m e).text.toList := by
  cases b with
  | false =>
    obtain rfl := eq_zero_of_toInt? h
    cases negative <;> simp [Binary64.text]
  | true =>
    obtain ⟨rfl, rfl, rfl⟩ := eq_one_of_toInt? hcanonical h
    decide +kernel

end

namespace Document

/-- What a reader accepts is within limits, and it accepts the same as it is read from JSON text. -/
def Survives {α : Type} (read : Value → Checked α) : Prop :=
  ∀ v a, v.IsPortable → read v = .ok a → v.IsModest ∧ read v.asRead = .ok a

theorem survives_readText : Survives readText := by
  intro v s hv h
  cases hv with
  | text hs => exact ⟨.text _, h⟩
  | _ => exact absurd h (by simp [readText, refuse])

theorem survives_readValue : Survives readValue := by
  intro v s hv h
  cases hv with
  | null => exact ⟨.null, h⟩
  | bool b => exact ⟨.bool b, h⟩
  | int n => exact ⟨.int (length_toDigits_le (by decide) (readValue_int_eq_ok_iff.1 h).1), h⟩
  | float hcanonical =>
    refine ⟨.float _, ?_⟩
    rw [Value.asRead, readBack]
    split <;> exact h
  | text hs => exact ⟨.text _, h⟩
  | _ => exact absurd h (by simp [readValue, readText, refuse])

theorem survives_readFlag : Survives readFlag := by
  intro v b hv h
  cases hv with
  | bool b => exact ⟨.bool b, h⟩
  | int n =>
    refine ⟨.int ?_, h⟩
    cases (readFlag_eq_ok_iff (.int n)).1 h
    cases b <;> decide
  | float hcanonical =>
    have hflag := (readFlag_eq_ok_iff (.float _)).1 h
    refine ⟨.float _, ?_⟩
    cases hflag with
    | float hint =>
      rw [Value.asRead, readBack, if_pos (point_mem_of_flag hcanonical hint)]
      exact h
  | text hs => exact ⟨.text _, h⟩
  | _ => exact absurd h (by simp [readFlag, refuse])

theorem unlessNull_of_ne {v : Value} (h : v ≠ .null) : unlessNull v = some v := by
  cases v with
  | null => exact absurd rfl h
  | _ => rfl

theorem asRead_ne_null {v : Value} (h : v ≠ .null) : v.asRead ≠ .null := by
  cases v with
  | null => exact absurd rfl h
  | float x =>
    rw [Value.asRead, readBack]
    split <;> simp
  | _ => simp [Value.asRead]

theorem Survives.optional {α : Type} {read : Value → Checked α} (h : Survives read) : Survives (optional read) := by
  intro v o hv ho
  by_cases hnull : v = .null
  · subst hnull
    exact ⟨.null, ho⟩
  · rw [optional_eq (unlessNull_of_ne hnull)] at ho
    obtain ⟨a, ha, rfl⟩ := map_eq_ok_iff.1 ho
    obtain ⟨hmodest, hkept⟩ := h v a hv ha
    exact ⟨hmodest, by rw [optional_eq (unlessNull_of_ne (asRead_ne_null hnull)), hkept]; rfl⟩

theorem survives_readOperator : Survives readOperator := by
  intro v op hv h
  obtain ⟨s, hs, hop⟩ := bind_eq_ok.1 h
  obtain ⟨hmodest, hread⟩ := survives_readText v s hv hs
  exact ⟨hmodest, bind_eq_ok.2 ⟨s, hread, hop⟩⟩

theorem survives_readCombinator : Survives readCombinator := by
  intro v c hv h
  cases hv with
  | null => exact ⟨.null, h⟩
  | text hs => exact ⟨.text _, h⟩
  | _ => exact absurd h (by simp [readCombinator, refuse])

/-! Members -/

section

variable {entries : Entries}

theorem Survives.member {α : Type} {read : Value → Checked α} (h : Survives read)
    (hportable : (Value.map entries).IsPortable) {key : String} {absent a : α}
    (hmember : member entries key read absent = .ok a) :
    (∀ v, Value.get? entries key = some v → v.IsModest) ∧ member (asReadEntries entries) key read absent = .ok a := by
  rw [Document.member, Value.get?_asReadEntries]
  obtain ⟨hget, rfl⟩ | ⟨v, hget, hread⟩ := member_eq_ok hmember
  · rw [hget]
    exact ⟨fun v hv => absurd hv (by simp), rfl⟩
  · have hv : v.IsPortable := by
      cases hportable with
      | map _ _ hvalues => exact hvalues _ (Value.mem_of_get? hget)
    obtain ⟨hmodest, hkept⟩ := h v a hv hread
    rw [hget]
    refine ⟨fun w hw => ?_, mapError_eq_ok_iff.2 hkept⟩
    obtain rfl := Option.some.inj hw
    exact hmodest

theorem checkKeys_asReadEntries (names : List String) (entries : Entries) :
    checkKeys names (asReadEntries entries) = checkKeys names entries := by
  induction entries with
  | nil => rfl
  | cons e entries ih =>
    obtain ⟨k, v⟩ := e
    cases k with
    | text s => rw [asReadEntries, checkKeys, checkKeys, ih]
    | _ => rfl

theorem caseKey?_asReadEntries (entries : Entries) : caseKey? (asReadEntries entries) = caseKey? entries := by
  simp only [caseKey?, Value.get?_asReadEntries, Option.isSome_map]

theorem isModest_of_keysAmong {names : List String} (hportable : (Value.map entries).IsPortable)
    (hkeys : KeysAmong names entries) (hshort : ∀ key ∈ names, (Json.string key).length ≤ 1024)
    (hvalues : ∀ key ∈ names, ∀ v, Value.get? entries key = some v → v.IsModest) : (Value.map entries).IsModest := by
  cases hportable with
  | map _ hdistinct _ =>
    refine .map (fun e he => ?_) fun e he => ?_
    · obtain ⟨key, hkey, heq⟩ := hkeys e he
      rw [heq]
      exact hshort key hkey
    · obtain ⟨key, hkey, heq⟩ := hkeys e he
      exact hvalues key hkey e.2 (Value.get?_of_mem hdistinct (heq ▸ he))

end

/-! Condition sets -/

theorem survives_readCase {entries : Entries} (hportable : (Value.map entries).IsPortable) {o : Option Bool}
    (h : readCase entries = .ok o) :
    (∀ key ∈ (caseKey? entries).toList, ∀ v, Value.get? entries key = some v → v.IsModest) ∧
      readCase (asReadEntries entries) = .ok o := by
  rw [readCase, caseKey?_asReadEntries]
  rw [readCase] at h
  cases hkey : caseKey? entries with
  | none =>
    rw [hkey] at h
    exact ⟨fun key hmem => absurd hmem List.not_mem_nil, h⟩
  | some key =>
    rw [hkey] at h
    obtain ⟨hmodest, hkept⟩ := survives_readFlag.optional.member hportable h
    refine ⟨fun key' hmem => ?_, hkept⟩
    obtain rfl := List.mem_singleton.1 hmem
    exact hmodest

theorem survives_readEntry : Survives readEntry := by
  intro v e hv h
  cases v with
  | map entries =>
    obtain ⟨hid, hfield, ⟨w, hget, hoperator⟩, hvalue, hcase, hkeys⟩ := readEntry_map_eq_ok_iff.1 h
    have hw : w.IsPortable := by
      cases hv with
      | map _ _ hvalues => exact hvalues _ (Value.mem_of_get? hget)
    obtain ⟨hidModest, hid'⟩ := survives_readText.optional.member hv hid
    obtain ⟨hfieldModest, hfield'⟩ := survives_readText.member hv hfield
    obtain ⟨hoperatorModest, hoperator'⟩ := survives_readOperator w _ hw hoperator
    obtain ⟨hvalueModest, hvalue'⟩ := survives_readValue.member hv hvalue
    obtain ⟨hcaseModest, hcase'⟩ := survives_readCase hv hcase
    constructor
    · refine isModest_of_keysAmong hv (checkKeys_eq_ok_iff.1 hkeys) ?_ ?_
      · have hshort : ∀ key ∈ caseKeys, (Json.string key).length ≤ 1024 := by decide +kernel
        refine List.forall_mem_append.2 ⟨by decide +kernel, fun key hkey => hshort key ?_⟩
        exact (of_caseKey? (Option.mem_toList.1 hkey)).1
      · have hoperatorModest' : ∀ v, Value.get? entries "operator" = some v → v.IsModest := by
          intro v hv
          obtain rfl := Option.some.inj (hget.symm.trans hv)
          exact hoperatorModest
        refine List.forall_mem_append.2 ⟨?_, hcaseModest⟩
        exact List.forall_mem_cons.2 ⟨hidModest, List.forall_mem_cons.2 ⟨hfieldModest,
          List.forall_mem_cons.2 ⟨hoperatorModest', List.forall_mem_singleton.2 hvalueModest⟩⟩⟩
    · refine readEntry_map_eq_ok_iff.2 ⟨hid', hfield', ⟨w.asRead, ?_, hoperator'⟩, hvalue', hcase', ?_⟩
      · rw [Value.get?_asReadEntries, hget]
        rfl
      · rw [caseKey?_asReadEntries, checkKeys_asReadEntries]
        exact hkeys
  | _ => exact absurd h (by simp [readEntry, refuse])

theorem survives_readConditions : Survives readConditions := by
  intro v es hv h
  cases hv with
  | @list rows hall =>
    have hrows := readEntries_eq_ok_iff.1 h
    have hboth : (∀ row ∈ rows, row.IsModest) ∧
        List.Forall₂ (fun row e => readEntry row = .ok e) (asReadItems rows) es := by
      clear h
      induction hrows with
      | nil => exact ⟨fun row hrow => absurd hrow List.not_mem_nil, .nil⟩
      | cons hrow _ ih =>
        obtain ⟨hfirst, hmore⟩ := List.forall_mem_cons.1 hall
        obtain ⟨hmodest, hkept⟩ := survives_readEntry _ _ hfirst hrow
        obtain ⟨hrest, hkeptRest⟩ := ih hmore
        exact ⟨List.forall_mem_cons.2 ⟨hmodest, hrest⟩, .cons hkept hkeptRest⟩
    exact ⟨.list hboth.1, readEntries_eq_ok_iff.2 hboth.2⟩
  | _ => exact absurd h (by simp [readConditions, refuse])

theorem load_asRead {d : Value} (hd : d.IsPortable) {defaults : Defaults} {set : ConditionSet}
    (h : (load d defaults).result = .ok set) :
    d.IsModest ∧ load d.asRead defaults = load d defaults := by
  obtain ⟨doc, sheet, rfl, hsheet, -⟩ := of_load h
  obtain ⟨hcombinator, hconditions, hkeys⟩ := readSheet_eq_ok_iff.1 hsheet
  obtain ⟨hcombinatorModest, hcombinator'⟩ := survives_readCombinator.member hd hcombinator
  obtain ⟨hconditionsModest, hconditions'⟩ := survives_readConditions.member hd hconditions
  have hsheet' : readSheet (asReadEntries doc) = .ok sheet :=
    readSheet_eq_ok_iff.2 ⟨hcombinator', hconditions', (checkKeys_asReadEntries _ doc).trans hkeys⟩
  constructor
  · refine isModest_of_keysAmong hd (checkKeys_eq_ok_iff.1 hkeys) (by decide +kernel) ?_
    exact List.forall_mem_cons.2 ⟨hcombinatorModest, List.forall_mem_singleton.2 hconditionsModest⟩
  · rw [Value.asRead, load, load, hsheet, hsheet']

/-! Files -/

theorem unifyLines_eq {cs : List Char} (h : '\r' ∉ cs) : Text.unifyLines cs = cs := by
  fun_induction Text.unifyLines cs with
  | case1 => rfl
  | case2 rest => exact absurd List.mem_cons_self h
  | case3 rest => exact absurd List.mem_cons_self h
  | case4 c rest _ _ ih => rw [ih fun hmem => h (List.mem_cons_of_mem _ hmem)]

theorem readData_json {entries : Entries} (hportable : (Value.map entries).IsPortable)
    (hmodest : (Value.map entries).IsModest) {tree : Files.Tree} {path : String}
    (hfile : tree.read path = .ok (Text.Utf8.encode (Json.line (.map entries)))) :
    readData tree path = .ok (Value.map entries).asRead := by
  have hreturn : '\r' ∉ Json.line (.map entries) := fun hmem =>
    absurd (Json.isPlain_line hportable.isWritable _ hmem) (by decide)
  have hread : readFile tree path = .ok (Json.line (.map entries)) := by
    rw [readFile, hfile]
    dsimp only
    rw [Text.Utf8.decode_eq_ok_iff.2 rfl]
    dsimp only
    rw [unifyLines_eq hreturn]
  simp only [readData, hread, bind, Except.bind, Json.load_line hportable hmodest]
  rfl

/-- A file with the JSON text of a value that is accepted holds the same condition set as the value. -/
theorem loadFile_json {d : Value} (hd : d.IsPortable) {defaults : Defaults} {set : ConditionSet}
    (h : (load d defaults).result = .ok set) {tree : Files.Tree} {path : String}
    (hfile : tree.read path = .ok (Text.Utf8.encode (Json.line d))) :
    loadFile tree path defaults = ⟨(load d defaults).notices, .ok set⟩ := by
  obtain ⟨hmodest, hsame⟩ := load_asRead hd h
  obtain ⟨doc, -, rfl, -⟩ := of_load h
  rw [loadFile, readData_json hd hmodest hfile]
  dsimp only
  rw [hsame, h]
  rfl

/-- A document with a number that is read back as text, and an escape in its text. -/
def largeSheet : Value :=
  .map [(.text "combinator", .text "or"),
    (.text "conditions", .list [
      .map [(.text "operator", .text "equals"),
        (.text "value", .float (.finite false 4768371582031250 21))],
      .map [(.text "field", .text "größe"), (.text "operator", .text "contains"), (.text "value", .int 1080),
        (.text "caseSensitive", .bool true)]])]

def treeWith (d : Value) : Files.Tree :=
  ⟨["work"], "/work", [(["work", "sheet.json"], .file (Text.Utf8.encode (Json.line d)))]⟩

theorem read_treeWith (d : Value) : (treeWith d).read "sheet.json" = .ok (Text.Utf8.encode (Json.line d)) := rfl

theorem largeSheet_isPortable : largeSheet.IsPortable := by
  have htext {s : String} (hs : IsBasic s.toList) : (Value.text s).IsPortable := .text hs
  have hfloat : (Value.float (.finite false 4768371582031250 21)).IsPortable :=
    .float ⟨by decide, by decide, by decide, .inl (by decide)⟩
  have hbasic : ∀ key ∈ ["combinator", "conditions"] ++ rowKeys, IsBasic key.toList := by simp [IsBasic, rowKeys, caseKeys]
  have hmap {es : Entries} (hkeys : ∀ e ∈ es, ∃ key ∈ ["combinator", "conditions"] ++ rowKeys, e.1 = .text key)
      (hdistinct : (es.map (·.1)).Nodup) (hvalues : ∀ e ∈ es, e.2.IsPortable) : (Value.map es).IsPortable := by
    refine .map (fun e he => ?_) hdistinct hvalues
    obtain ⟨key, hkey, heq⟩ := hkeys e he
    exact ⟨key, heq, hbasic key hkey⟩
  refine hmap (by simp) (by simp) (List.forall_mem_cons.2 ⟨htext (by simp [IsBasic]), List.forall_mem_singleton.2 (.list ?_)⟩)
  refine List.forall_mem_cons.2 ⟨?_, List.forall_mem_singleton.2 ?_⟩
  · refine hmap (by simp [rowKeys]) (by simp) ?_
    exact List.forall_mem_cons.2 ⟨htext (by simp [IsBasic]), List.forall_mem_singleton.2 hfloat⟩
  · refine hmap (by simp [rowKeys, caseKeys]) (by simp) ?_
    exact List.forall_mem_cons.2 ⟨htext (by simp [IsBasic]), List.forall_mem_cons.2 ⟨htext (by simp [IsBasic]),
      List.forall_mem_cons.2 ⟨.int 1080, List.forall_mem_singleton.2 (.bool true)⟩⟩⟩

theorem largeSheet_loads : ∃ set, (load largeSheet {}).result = .ok set ∧
    loadFile (treeWith largeSheet) "sheet.json" {} = ⟨(load largeSheet {}).notices, .ok set⟩ := by
  obtain ⟨set, hset⟩ := exists_ok_of_isSome (x := (load largeSheet {}).result) (by decide +kernel)
  exact ⟨set, hset, loadFile_json largeSheet_isPortable hset (read_treeWith largeSheet)⟩

end Document
end ReleaseMatch
