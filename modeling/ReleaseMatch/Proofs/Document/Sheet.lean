import ReleaseMatch.Proofs.Document.Bare
import ReleaseMatch.Proofs.Document.Json
import ReleaseMatch.Proofs.Yaml.Lines
set_option autoImplicit false

/-!
# Condition sets in block style

Condition sets as people write them: a list of conditions under its name, with each key on a line of its own. As
long as the other words are texts, a numeral as a value is the only word that can be taken for something else.
-/
namespace ReleaseMatch.Document

open Number Yaml

/-! Lines of texts -/

structure IsTextLine (l : Line) : Prop extends l.IsProper where
  keyTag : plainTag (String.ofList l.key) = .str
  wordTag : plainTag (String.ofList l.word) = .str

structure IsTextItem (ls : List Line) : Prop where
  ne_nil : ls ≠ []
  lines : ∀ l ∈ ls, IsTextLine l
  distinct : (ls.map (·.key)).Nodup

def lineValue (l : Line) : Value × Value := (.text (String.ofList l.key), .text (String.ofList l.word))

def itemValue (ls : List Line) : Value := .map (ls.map lineValue)

theorem gives_str (text : String) (mark : Mark) : (Node.scalar .str text mark).Gives (.text text) :=
  gives_of_scalarValue rfl ⟨_, _, _, rfl⟩

theorem nodup_keys {ls : List Line} (h : (ls.map (·.key)).Nodup) : ((ls.map lineValue).map (·.1)).Nodup := by
  have hkeys : (ls.map lineValue).map (·.1) = (ls.map (·.key)).map fun key => Value.text (String.ofList key) := by
    rw [List.map_map, List.map_map]
    rfl
  rw [hkeys]
  exact h.map fun _ _ heq => String.ofList_injective (Value.text.inj heq)

theorem givesEntry_of_line {l : Line} (hl : IsTextLine l) {e : Node × Node} (h : LineNodes l e) :
    GivesEntry e (lineValue l) := by
  cases h
  rw [hl.keyTag, hl.wordTag]
  exact .mk (gives_str _ _)

theorem givesEntries_of_lines {ls : List Line} (hls : ∀ l ∈ ls, IsTextLine l) {es : List (Node × Node)}
    (h : List.Forall₂ LineNodes ls es) : List.Forall₂ GivesEntry es (ls.map lineValue) := by
  induction h with
  | nil => exact .nil
  | cons hfirst _ ih =>
    obtain ⟨hl, hls⟩ := List.forall_mem_cons.1 hls
    exact .cons (givesEntry_of_line hl hfirst) (ih hls)

theorem gives_of_item {ls : List Line} (hls : IsTextItem ls) {n : Node} (h : ItemNode ls n) : n.Gives (itemValue ls) := by
  obtain ⟨hes, mark⟩ := h
  exact gives_mapping (givesEntries_of_lines hls.lines hes) (nodup_keys hls.distinct) mark

theorem givesItems_of_items {items : List (List Line)} (hitems : ∀ ls ∈ items, IsTextItem ls) {ns : List Node}
    (h : List.Forall₂ ItemNode items ns) : List.Forall₂ Node.Gives ns (items.map itemValue) := by
  induction h with
  | nil => exact .nil
  | cons hfirst _ ih =>
    obtain ⟨hls, hitems⟩ := List.forall_mem_cons.1 hitems
    exact .cons (gives_of_item hls hfirst) (ih hitems)

/-! Sheets -/

/-- A condition set in block style of which the value of one condition is left open. -/
structure OpenSheet where
  above : List (List Line)
  before : List Line
  after : List Line
  below : List (List Line)

namespace OpenSheet

def row (s : OpenSheet) (word : List Char) : List Line := s.before ++ ⟨"value".toList, word⟩ :: s.after

def items (s : OpenSheet) (word : List Char) : List (List Line) := s.above ++ s.row word :: s.below

def text (s : OpenSheet) (word : List Char) : List Char := listText "conditions".toList (s.items word)

def value (s : OpenSheet) (word : List Char) : Value :=
  .map [(.text "conditions", .list ((s.items word).map itemValue))]

/-- Apart from the open value there are texts alone. -/
structure IsProper (s : OpenSheet) : Prop where
  above : ∀ ls ∈ s.above, IsTextItem ls
  before : ∀ l ∈ s.before, IsTextLine l
  after : ∀ l ∈ s.after, IsTextLine l
  below : ∀ ls ∈ s.below, IsTextItem ls
  distinct : ((s.before ++ s.after).map (·.key)).Nodup ∧ "value".toList ∉ (s.before ++ s.after).map (·.key)

end OpenSheet

theorem forall₂_split {α β : Type} {R : α → β → Prop} {xs ys : List α} {x : α} {us : List β}
    (h : List.Forall₂ R (xs ++ x :: ys) us) :
    ∃ vs u ws, us = vs ++ u :: ws ∧ List.Forall₂ R xs vs ∧ R x u ∧ List.Forall₂ R ys ws := by
  induction xs generalizing us with
  | nil =>
    obtain ⟨u, ws, hfirst, hmore, rfl⟩ := List.forall₂_cons_left_iff.1 h
    exact ⟨[], u, ws, rfl, .nil, hfirst, hmore⟩
  | cons y xs ih =>
    obtain ⟨u, us, hfirst, hmore, rfl⟩ := List.forall₂_cons_left_iff.1 h
    obtain ⟨vs, v, ws, rfl, hxs, hx, hys⟩ := ih hmore
    exact ⟨u :: vs, v, ws, rfl, .cons hfirst hxs, hx, hys⟩

theorem isWord_conditions : IsWord "conditions".toList :=
  ⟨by simp [isWordLetter, isPlainAscii], false, 'c', _, rfl, rfl⟩

theorem isProper_value {word : List Char} (hword : IsWord word) : Line.IsProper ⟨"value".toList, word⟩ :=
  ⟨⟨by simp [isWordLetter, isPlainAscii], false, 'v', _, rfl, rfl⟩, show "value".toList.length ≤ 1024 by decide, hword⟩

section

variable {s : OpenSheet} (hs : s.IsProper) {word : List Char}

include hs

theorem OpenSheet.distinct_row : (((s.row word).map lineValue).map (·.1)).Nodup := by
  refine nodup_keys ?_
  rw [OpenSheet.row, List.map_append, List.map_cons, List.nodup_middle, List.nodup_cons, ← List.map_append]
  exact hs.distinct.symm

variable (hword : IsWord word)

include hword

theorem OpenSheet.areProper_items : ∀ ls ∈ s.items word, AreProper ls := by
  have hitem {ls : List Line} (h : IsTextItem ls) : AreProper ls := ⟨h.ne_nil, fun l hl => (h.lines l hl).toIsProper⟩
  rw [OpenSheet.items, List.forall_mem_append, List.forall_mem_cons]
  refine ⟨fun ls hls => hitem (hs.above ls hls), ⟨by simp [OpenSheet.row], ?_⟩, fun ls hls => hitem (hs.below ls hls)⟩
  rw [OpenSheet.row, List.forall_mem_append, List.forall_mem_cons]
  exact ⟨fun l hl => (hs.before l hl).toIsProper, isProper_value hword, fun l hl => (hs.after l hl).toIsProper⟩

theorem OpenSheet.exists_opening : ∃ (o : Opening) (mark : Mark), o.index = s.above.length ∧
    Node.ofText? (s.text word) =
      .ok (some (o.document (.scalar (plainTag (String.ofList word)) (String.ofList word) mark))) ∧
    (o.document (.scalar .str (String.ofList word) mark)).Gives (s.value word) := by
  have hne : s.items word ≠ [] := by simp [OpenSheet.items]
  obtain ⟨n, hread, hnode⟩ := ofText?_list isWord_conditions (by decide) hne (OpenSheet.areProper_items hs hword)
  obtain ⟨hitems, keyMark, listMark, sheetMark⟩ := hnode
  obtain ⟨above, row, below, rfl, habove, hrow, hbelow⟩ := forall₂_split hitems
  obtain ⟨hlines, rowMark⟩ := hrow
  obtain ⟨before, e, after, rfl, hbefore, he, hafter⟩ := forall₂_split hlines
  obtain ⟨valueMark, mark⟩ := he
  have hafterValues := givesEntries_of_lines hs.after hafter
  have hlast : WithoutKey "value" (ownEntries after) := by
    rw [ownEntries_eq hafterValues]
    intro e he heq
    obtain ⟨l, hl, rfl⟩ := List.mem_map.1 he
    have hkey : l.key = "value".toList := String.ofList_injective (Value.text.inj heq)
    exact hs.distinct.2 (List.mem_map.2 ⟨l, List.mem_append_right _ hl, hkey⟩)
  have hrow : (Node.mapping .map (before ++ (.scalar .str "value" valueMark, .scalar .str (String.ofList word) mark) ::
      after) rowMark).Gives (itemValue (s.row word)) := by
    refine gives_mapping ?_ (OpenSheet.distinct_row hs) rowMark
    rw [OpenSheet.row, List.map_append]
    exact List.rel_append (givesEntries_of_lines hs.before hbefore) (.cons (.mk (gives_str _ mark)) hafterValues)
  refine ⟨⟨⟨[], keyMark, [], sheetMark, fun e he => absurd he List.not_mem_nil⟩, above, below, listMark,
    ⟨before, valueMark, after, rowMark, hlast⟩⟩, mark, habove.length_eq.symm, ?_, ?_⟩
  · have hconditions : plainTag "conditions" = .str := by decide +kernel
    have hvalue : plainTag "value" = .str := by decide +kernel
    simp only [String.ofList_toList, hconditions, hvalue] at hread
    exact hread
  · refine gives_mapping (.cons (.mk (gives_sequence ?_ listMark)) .nil) (by simp) sheetMark
    rw [OpenSheet.items, List.map_append]
    exact List.rel_append (givesItems_of_items hs.above habove) (.cons hrow (givesItems_of_items hs.below hbelow))

end

/-! Files -/

theorem OpenSheet.infix_text (s : OpenSheet) (word : List Char) : word <:+: s.text word := by
  have hline : ⟨"value".toList, word⟩ ∈ s.row word := List.mem_append_right _ List.mem_cons_self
  have hrow : s.row word ∈ s.items word := List.mem_append_right _ List.mem_cons_self
  exact infix_listText hline hrow _

theorem isAcceptable_of_isLineChar {c : Char} (h : isLineChar c = true) : isAcceptable c = true ∧ c ≠ '\r' := by
  rw [isLineChar, Bool.or_eq_true, beq_iff_eq] at h
  rcases h with h | rfl
  · refine ⟨Json.isAcceptable_of_isPlainAscii h, ?_⟩
    rintro rfl
    cases h
  · decide

/-- A sheet with a bare numeral, in any file, holds the condition set that it stands for with the digits as a text. -/
theorem OpenSheet.holdsBare {s : OpenSheet} (hs : s.IsProper) {n : Numeral} (hn : n.IsProper) {tree : Files.Tree}
    {path : String} (hfile : tree.read path = .ok (Text.Utf8.encode (s.text n.text))) {defaults : Defaults}
    {set : ConditionSet} (hset : (load (s.value n.text) defaults).result = .ok set) :
    HoldsBare tree path defaults n s.above.length set := by
  have hword : IsWord n.text := Json.isWord_numeral hn false
  obtain ⟨o, mark, hindex, hnode, hgives⟩ := OpenSheet.exists_opening hs hword
  have hchars (c) (hc : c ∈ s.text n.text) := isAcceptable_of_isLineChar
    (chars_listText isWord_conditions (OpenSheet.areProper_items hs hword) c hc)
  have hread : readFile tree path = .ok (s.text n.text) := by
    rw [readFile, hfile]
    dsimp only
    rw [Text.Utf8.decode_eq_ok_iff.2 rfl]
    dsimp only
    rw [unifyLines_eq fun hmem => (hchars _ hmem).2 rfl]
  rw [← hindex]
  exact .mk ⟨hread, fun c hc => (hchars c hc).1, hnode⟩ (s.infix_text _) ⟨_, construct_of_gives hgives _, hset⟩

def singleSheet : OpenSheet := ⟨[], [⟨"operator".toList, "contains".toList⟩], [], []⟩

theorem singleSheet_isProper : singleSheet.IsProper := by
  have hline : IsTextLine ⟨"operator".toList, "contains".toList⟩ :=
    ⟨⟨⟨by simp [isWordLetter, isPlainAscii], false, 'o', _, rfl, rfl⟩, by decide,
      ⟨by simp [isWordLetter, isPlainAscii], false, 'c', _, rfl, rfl⟩⟩, by decide +kernel, by decide +kernel⟩
  exact ⟨fun ls hls => absurd hls List.not_mem_nil, List.forall_mem_singleton.2 hline,
    fun l hl => absurd hl List.not_mem_nil, fun ls hls => absurd hls List.not_mem_nil, by decide, by decide⟩

def singleSet (text : String) : ConditionSet := ⟨[{ id := "c0", operator := .contains, value := text }], .and⟩

def treeHolding (cs : List Char) : Files.Tree :=
  ⟨["work"], "/work", [(["work", "sheet.yaml"], .file (Text.Utf8.encode cs))]⟩

theorem singleSheet_holdsBare {n : Numeral} (hn : n.IsProper) :
    HoldsBare (treeHolding (singleSheet.text n.text)) "sheet.yaml" {} n 0 (singleSet (String.ofList n.text)) :=
  OpenSheet.holdsBare singleSheet_isProper hn rfl rfl

/-! Digits that are kept -/

section

variable {n : Numeral} (hn : n.IsProper) (hpower : n.power = none) {tree : Files.Tree} {path : String}
  {defaults : Defaults} {index : Nat} {set : ConditionSet} (h : HoldsBare tree path defaults n index set)
  {c : Condition} (hc : set.conditions[index]? = some c) (hcontains : c.operator = .contains)

include hn hpower h hc hcontains

/-- Digits without quotes, with at most one point between them, are used as they stand there just if they are the
text of the number that they are taken for, or are taken for a text. Else another text takes their place, or the
file is refused. -/
theorem bareNumeral_iff : (loadFile tree path defaults).result.toOption = (shownNumeral? n).map (set.withValue index ·) ∧
    (LooksFor tree path defaults index (String.ofList n.text) ↔ IsKept n) :=
  ⟨h.loadFile_eq hn hpower, h.looksFor_iff hn hpower hc hcontains⟩

end

theorem isProper_of_all (ds : List Char) (hne : ds ≠ []) (hds : ds.all Char.isDigit = true) :
    (Numeral.mk ds [] none).IsProper :=
  ⟨hne, List.all_eq_true.1 hds, fun _ hc => absurd hc List.not_mem_nil⟩

theorem bareNumeral_1080 : LooksFor (treeHolding (singleSheet.text "1080".toList)) "sheet.yaml" {} 0 "1080" := by
  have hproper := isProper_of_all "1080".toList (by decide) (by decide)
  have hkept : IsKept ⟨"1080".toList, [], none⟩ := .whole (by decide) (by decide)
  exact (bareNumeral_iff hproper rfl (singleSheet_holdsBare hproper) rfl rfl).2.2 hkept

/-- Behind a zero the digits are taken for a number in base eight. -/
theorem octal_not_kept :
    HoldsBare (treeHolding (singleSheet.text "010".toList)) "sheet.yaml" {} ⟨"010".toList, [], none⟩ 0 (singleSet "010") ∧
      (loadFile (treeHolding (singleSheet.text "010".toList)) "sheet.yaml" {}).result = .ok (singleSet "8") ∧
      ¬LooksFor (treeHolding (singleSheet.text "010".toList)) "sheet.yaml" {} 0 "010" := by
  have hproper := isProper_of_all "010".toList (by decide) (by decide)
  have hbare := singleSheet_holdsBare hproper
  have hshown : shownNumeral? ⟨"010".toList, [], none⟩ = some "8" := by decide +kernel
  have hload := hbare.loadFile_eq hproper rfl
  rw [hshown, Option.map_some, toOption_eq_some] at hload
  refine ⟨hbare, hload, ?_⟩
  rintro ⟨set, c, hset, hc, hvalue, -⟩
  obtain rfl := Except.ok.inj (hload.symm.trans hset)
  obtain rfl := Option.some.inj hc
  exact absurd hvalue (by decide)

end ReleaseMatch.Document
