import ReleaseMatch.Proofs.Yaml.Block
import ReleaseMatch.Proofs.Yaml.Nodes
import ReleaseMatch.Proofs.Yaml.Reader
set_option autoImplicit false

/-!
# Lists of mappings in block style

A key of which the value is a list of mappings. Each entry of these stands on a line of its own, the first one
behind a hyphen. Such a text is read as the tokens of its words, and these as the node of the list.
-/
namespace ReleaseMatch.Yaml

open Number

/-- A key and the word that it stands for. -/
structure Line where
  key : List Char
  word : List Char

structure Line.IsProper (l : Line) : Prop where
  key : IsWord l.key
  short : l.key.length ≤ 1024
  word : IsWord l.word

def AreProper (ls : List Line) : Prop := ls ≠ [] ∧ ∀ line ∈ ls, line.IsProper

namespace Line

def text (l : Line) : List Char := l.key ++ ':' :: ' ' :: (l.word ++ ['\n'])

def kinds (l : Line) : List TokenKind :=
  [.key, .scalar (String.ofList l.key) true, .value, .scalar (String.ofList l.word) true]

end Line

def moreLines (ls : List Line) : List Char := ls.flatMap fun l => ' ' :: ' ' :: l.text

def itemText : List Line → List Char
  | [] => []
  | l :: ls => '-' :: ' ' :: (l.text ++ moreLines ls)

def itemKinds (ls : List Line) : List TokenKind :=
  .blockEntry :: .blockMappingStart :: ls.flatMap Line.kinds ++ [.blockEnd]

def listText (name : List Char) (items : List (List Line)) : List Char := name ++ ':' :: '\n' :: items.flatMap itemText

def listKinds (name : List Char) (items : List (List Line)) : List TokenKind :=
  .blockMappingStart :: .key :: .scalar (String.ofList name) true :: .value :: items.flatMap itemKinds ++ [.blockEnd]

def isLineChar (c : Char) : Bool := isPlainAscii c || c == '\n'

theorem isLineChar_of_isWord {word : List Char} (h : IsWord word) : ∀ c ∈ word, isLineChar c = true := by
  intro c hc
  have hletter := h.letters c hc
  rw [isWordLetter, Bool.and_eq_true] at hletter
  rw [isLineChar, hletter.1, Bool.true_or]

theorem chars_text {l : Line} (hl : l.IsProper) : ∀ c ∈ l.text, isLineChar c = true := by
  rw [Line.text, List.forall_mem_append, List.forall_mem_cons, List.forall_mem_cons, List.forall_mem_append,
    List.forall_mem_singleton]
  exact ⟨isLineChar_of_isWord hl.key, rfl, rfl, isLineChar_of_isWord hl.word, rfl⟩

theorem chars_itemText {ls : List Line} (hls : ∀ l ∈ ls, l.IsProper) : ∀ c ∈ itemText ls, isLineChar c = true := by
  cases ls with
  | nil => exact fun c hc => absurd hc List.not_mem_nil
  | cons l ls =>
    obtain ⟨hl, hls⟩ := List.forall_mem_cons.1 hls
    have hmore : ∀ c ∈ moreLines ls, isLineChar c = true := by
      intro c hc
      obtain ⟨d, hd, hc⟩ := List.mem_flatMap.1 hc
      rcases List.mem_append.1 (show c ∈ [' ', ' '] ++ d.text from hc) with hc | hc
      · rw [List.eq_of_mem_replicate (show c ∈ List.replicate 2 ' ' from hc)]
        rfl
      · exact chars_text (hls d hd) c hc
    rw [itemText, List.forall_mem_cons, List.forall_mem_cons, List.forall_mem_append]
    exact ⟨rfl, rfl, chars_text hl, hmore⟩

theorem chars_listText {name : List Char} (hname : IsWord name) {items : List (List Line)}
    (hitems : ∀ ls ∈ items, AreProper ls) : ∀ c ∈ listText name items, isLineChar c = true := by
  rw [listText, List.forall_mem_append, List.forall_mem_cons, List.forall_mem_cons]
  refine ⟨isLineChar_of_isWord hname, rfl, rfl, fun c hc => ?_⟩
  obtain ⟨ls, hls, hc⟩ := List.mem_flatMap.1 hc
  exact chars_itemText (hitems ls hls).2 c hc

theorem infix_listText {l : Line} {ls : List Line} {items : List (List Line)} (hl : l ∈ ls) (hls : ls ∈ items)
    (name : List Char) : l.word <:+: listText name items := by
  have hword : l.word <:+: l.text :=
    List.infix_append_of_infix_right (List.infix_append_left.trans (List.infix_cons (List.infix_cons (List.infix_refl _))))
  have hline : l.text <:+: itemText ls := by
    cases ls with
    | nil => cases hl
    | cons d ls =>
      rcases List.mem_cons.1 hl with rfl | hl
      · exact List.infix_cons (List.infix_cons List.infix_append_left)
      · have hmore : l.text <:+: moreLines ls :=
          (List.infix_cons (List.infix_cons (List.infix_refl _))).trans
            (List.infix_of_mem_flatten (List.mem_map_of_mem hl))
        exact List.infix_cons (List.infix_cons (List.infix_append_of_infix_right hmore))
  have hitem : itemText ls <:+: items.flatMap itemText := List.infix_of_mem_flatten (List.mem_map_of_mem hls)
  have hitems : items.flatMap itemText <:+: listText name items :=
    List.infix_append_of_infix_right (List.infix_cons (List.infix_cons (List.infix_refl _)))
  exact hword.trans (hline.trans (hitem.trans hitems))

/-! Tokens -/

namespace Lexer

variable {l : Lexer} {kinds : List TokenKind} {column : Nat} {rest : List Char}

theorem lex_lines {ls : List Line} (hls : ∀ line ∈ ls, line.IsProper) {word : List Char} (hword : IsWord word)
    (hrest : StartsLine rest) (hallow : l.allowKey = false) (hcolumn : 2 ≤ column)
    (h : l.Lies [2, 0, -1] kinds column (' ' :: (word ++ '\n' :: (moreLines ls ++ rest)))) :
    ∃ l', l.Leads l' ∧ l'.allowKey = true ∧
      l'.Lies [2, 0, -1] ((ls.flatMap Line.kinds).reverse ++ .scalar (String.ofList word) true :: kinds) 0 rest := by
  induction ls generalizing l kinds column word with
  | nil => exact Lies.scalar hword 0 hrest hallow (by omega) (by decide) h
  | cons line ls ih =>
    obtain ⟨hkey, hshort, hline⟩ := hls line List.mem_cons_self
    have htext : moreLines (line :: ls) ++ rest =
        List.replicate 2 ' ' ++ (line.key ++ ':' :: ' ' :: (line.word ++ '\n' :: (moreLines ls ++ rest))) := by
      simp [moreLines, Line.text, List.replicate]
    rw [htext] at h
    obtain ⟨l₁, hleads₁, hallow₁, hlies₁⟩ :=
      h.scalar hword 2 (startsLine_word hkey _) hallow (by omega) (by decide)
    obtain ⟨l₂, hleads₂, hallow₂, hlies₂⟩ := Lies.key hkey 0 hshort rfl hallow₁ hlies₁
      (.none (le_refl _)) (.next _)
    obtain ⟨l₃, hleads₃, hallow₃, hlies₃⟩ := ih (fun line hline => hls line (List.mem_cons_of_mem _ hline)) hline hallow₂
      (by omega) hlies₂
    refine ⟨l₃, hleads₁.trans (hleads₂.trans hleads₃), hallow₃, ?_⟩
    simpa [Line.kinds] using hlies₃

theorem lex_item {line : Line} {ls : List Line} (hls : ∀ d ∈ line :: ls, d.IsProper) (hrest : StartsLine rest)
    (hallow : l.allowKey = true) (h : l.Lies [0, -1] kinds 1 (' ' :: (line.text ++ moreLines ls ++ rest))) :
    ∃ l', l.Leads l' ∧ l'.allowKey = true ∧
      l'.Lies [2, 0, -1] (((line :: ls).flatMap Line.kinds).reverse ++ .blockMappingStart :: kinds) 0 rest := by
  obtain ⟨hkey, hshort, hline⟩ := hls line List.mem_cons_self
  have htext : ' ' :: (line.text ++ moreLines ls ++ rest) =
      List.replicate 1 ' ' ++ (line.key ++ ':' :: ' ' :: (line.word ++ '\n' :: (moreLines ls ++ rest))) := by
    simp [Line.text, List.replicate]
  rw [htext] at h
  obtain ⟨l₁, hleads₁, hallow₁, hlies₁⟩ := h.key hkey 1 hshort rfl hallow (.none (by decide)) (.start (by decide))
  obtain ⟨l₂, hleads₂, hallow₂, hlies₂⟩ := lex_lines (fun d hd => hls d (List.mem_cons_of_mem _ hd)) hline hrest hallow₁
    (by omega) hlies₁
  refine ⟨l₂, hleads₁.trans hleads₂, hallow₂, ?_⟩
  simpa [Line.kinds] using hlies₂

theorem startsLine_items {items : List (List Line)} (h : ∀ ls ∈ items, AreProper ls) :
    StartsLine (items.flatMap itemText) := by
  cases items with
  | nil => exact startsLine_nil
  | cons ls items =>
    obtain ⟨line, ls, rfl⟩ := List.exists_cons_of_ne_nil (h ls List.mem_cons_self).1
    exact startsLine_hyphen _

theorem lex_items {items : List (List Line)} (hitems : ∀ ls ∈ items, AreProper ls) (hallow : l.allowKey = true)
    (h : l.Lies [2, 0, -1] kinds 0 (items.flatMap itemText)) :
    ∃ l' kinds', l.Leads l' ∧ l'.Lies [2, 0, -1] kinds' 0 [] ∧
      .blockEnd :: kinds' = (items.flatMap itemKinds).reverse ++ .blockEnd :: kinds := by
  induction items generalizing l kinds with
  | nil => exact ⟨l, kinds, .refl l, h, rfl⟩
  | cons ls items ih =>
    obtain ⟨hne, hls⟩ := hitems ls List.mem_cons_self
    have hmore := fun ls hls => hitems ls (List.mem_cons_of_mem _ hls)
    obtain ⟨line, ls, rfl⟩ := List.exists_cons_of_ne_nil hne
    obtain ⟨l₁, hleads₁, hallow₁, hlies₁⟩ := h.hyphen hallow (.cons (by decide) (.none (le_refl _)))
    obtain ⟨l₂, hleads₂, hallow₂, hlies₂⟩ := lex_item hls (startsLine_items hmore) hallow₁ hlies₁
    obtain ⟨l₃, kinds', hleads₃, hlies₃, hkinds⟩ := ih hmore hallow₂ hlies₂
    refine ⟨l₃, kinds', hleads₁.trans (hleads₂.trans hleads₃), hlies₃, hkinds.trans ?_⟩
    simp [itemKinds]

theorem tokens_list {name : List Char} (hname : IsWord name) (hshort : name.length ≤ 1024) {ls : List Line}
    (hls : AreProper ls) {items : List (List Line)} (hitems : ∀ ls ∈ items, AreProper ls) :
    (Tokens.ofText (listText name (ls :: items))).list.map (·.kind) =
      .streamStart :: (listKinds name (ls :: items) ++ [.streamEnd]) := by
  obtain ⟨hne, hlines⟩ := hls
  obtain ⟨line, ls, rfl⟩ := List.exists_cons_of_ne_nil hne
  have hstart : Lies [-1] [.streamStart] 0 (listText name ((line :: ls) :: items))
      (({ cursor := { rest := listText name ((line :: ls) :: items) } } : Lexer).add .streamStart {} {}) :=
    ⟨rfl, rfl, rfl, rfl, rfl, rfl, rfl⟩
  obtain ⟨l₁, hleads₁, -, hlies₁⟩ := Lies.key hname 0 hshort rfl rfl hstart (.none (by decide))
    (.start (by decide))
  obtain ⟨l₂, hleads₂, hallow₂, hlies₂⟩ := hlies₁.hyphen_break (.none (le_refl _))
  obtain ⟨l₃, hleads₃, hallow₃, hlies₃⟩ := lex_item hlines (startsLine_items hitems) hallow₂ hlies₂
  obtain ⟨l₄, kinds, hleads₄, hlies₄, hkinds⟩ := lex_items hitems hallow₃ hlies₃
  obtain ⟨fuel, hfuel, hrun⟩ := (hleads₁.trans (hleads₂.trans (hleads₃.trans hleads₄)))
    ((listText name ((line :: ls) :: items)).length + 2) (Nat.lt_add_of_pos_right Nat.two_pos)
  obtain ⟨hlist, -⟩ := hlies₄.run_end (.cons (by decide) (.none (le_refl _))) (.cons (by decide) (.none (le_refl _)))
    (Nat.zero_lt_of_lt hfuel)
  rw [Tokens.ofText, hrun]
  refine hlist.trans ?_
  simp only [List.nil_append, List.singleton_append, hkinds]
  simp [listKinds, itemKinds]

end Lexer

/-! Nodes -/

open Read

section

variable {r : NodeReader} {kind : TokenKind} {kinds : List TokenKind} (start : Mark) (fuel : Nat)

theorem readBlockMapping_end (h : r.tokens.map (·.kind) = .blockEnd :: kinds) :
    ∃ r', readBlockMapping start (fuel + 1) r = .ok ([], r') ∧ r'.tokens.map (·.kind) = kinds := by
  obtain ⟨t, htoken, hpeek⟩ := peek_of_kinds h
  obtain ⟨t', r', -, htake, hrest⟩ := take_of_kinds h
  refine ⟨r', ?_, hrest⟩
  rw [readBlockMapping, bind_of_ok hpeek, htoken]
  simp only [beq_self_eq_true, if_true]
  rw [bind_of_ok htake]
  rfl

theorem readBlockMapping_entry {key : String} {plain : Bool}
    (h : r.tokens.map (·.kind) = .key :: .scalar key plain :: .value :: kind :: kinds) (hkind : endsBlockPair kind = false) :
    ∃ mark r₁, r₁.tokens.map (·.kind) = kind :: kinds ∧ ∀ {n r₂ entries r₃},
      readNode { block := true, indentless := true } (fuel + 1) r₁ = .ok (n, r₂) →
        readBlockMapping start (fuel + 1) r₂ = .ok (entries, r₃) →
          readBlockMapping start (fuel + 2) r = .ok ((.scalar (scalarTag none key plain) key mark, n) :: entries, r₃) := by
  obtain ⟨t, htoken, hpeek⟩ := peek_of_kinds h
  obtain ⟨k, r₁, -, htake, hrest₁⟩ := take_of_kinds h
  obtain ⟨mark, r₂, hscalar, hrest₂⟩ := readNode_scalar hrest₁ { block := true, indentless := true } fuel
  obtain ⟨v, r₃, hvalue, hrest₃⟩ := takeIf_of_true (· == .value) hrest₂ rfl
  refine ⟨mark, r₃, hrest₃, fun hnode hentries => ?_⟩
  have hends : endsBlockPair (.scalar key plain) = false := rfl
  rw [readBlockMapping, bind_of_ok hpeek, htoken]
  simp only [beq_iff_eq, reduceCtorEq, if_false, if_true]
  rw [bind_of_ok htake, bind_of_ok (nextIs_of_kinds hrest₁ _), hends]
  simp only [Bool.false_eq_true, if_false]
  rw [bind_of_ok hscalar, bind_of_ok hvalue]
  dsimp only
  rw [bind_of_ok (nextIs_of_kinds hrest₃ _), hkind]
  simp only [Bool.false_eq_true, if_false]
  rw [bind_of_ok hnode, bind_of_ok hentries]
  rfl

theorem readBlockSequence_end (h : r.tokens.map (·.kind) = kind :: kinds) (hkind : kind ≠ .blockEntry) :
    readBlockSequence start true (fuel + 1) r = .ok ([], r) := by
  have hnone : takeIf (· == .blockEntry) r = .ok (none, r) := takeIf_of_false h (beq_false_of_ne hkind)
  rw [readBlockSequence, bind_of_ok hnone]
  rfl

theorem readBlockSequence_item (h : r.tokens.map (·.kind) = .blockEntry :: kind :: kinds)
    (hkind : endsBlockEntry true kind = false) :
    ∃ r₁, r₁.tokens.map (·.kind) = kind :: kinds ∧ ∀ {n r₂ items r₃},
      readNode { block := true } fuel r₁ = .ok (n, r₂) →
        readBlockSequence start true fuel r₂ = .ok (items, r₃) →
          readBlockSequence start true (fuel + 1) r = .ok (n :: items, r₃) := by
  obtain ⟨t, r₁, htake, hrest₁⟩ := takeIf_of_true (· == .blockEntry) h rfl
  refine ⟨r₁, hrest₁, fun hnode hitems => ?_⟩
  rw [readBlockSequence, bind_of_ok htake]
  dsimp only
  rw [bind_of_ok (nextIs_of_kinds hrest₁ _), hkind]
  simp only [Bool.false_eq_true, if_false]
  rw [bind_of_ok hnode, bind_of_ok hitems]
  rfl

theorem readNode_blockMapping (h : r.tokens.map (·.kind) = .blockMappingStart :: kinds) :
    ∃ start r₁, r₁.tokens.map (·.kind) = kinds ∧ ∀ {entries r'},
      readBlockMapping start fuel r₁ = .ok (entries, r') →
        readNode { block := true } (fuel + 1) r = .ok (.mapping .map entries start, r') := by
  obtain ⟨t, htoken, hpeek⟩ := peek_of_kinds h
  obtain ⟨t', r₁, -, htake, hrest⟩ := take_of_kinds h
  refine ⟨t.start, r₁, hrest, fun hentries => ?_⟩
  rw [readNode, bind_of_ok hpeek]
  simp only [htoken]
  rw [bind_of_ok (readProperties_of_kinds h (by simp) (by simp)), bind_of_ok hpeek]
  simp only [htoken]
  rw [bind_of_ok (resolveTag_none _)]
  simp only [reduceCtorEq, beq_iff_eq, Bool.and_eq_true, and_false, if_false, and_self, if_true]
  rw [bind_of_ok htake]
  exact collection_of_ok t.start .map .mapping hentries

theorem readNode_indentless (h : r.tokens.map (·.kind) = .blockEntry :: kinds) :
    ∃ start, ∀ {items r'}, readBlockSequence start true fuel r = .ok (items, r') →
      readNode { block := true, indentless := true } (fuel + 1) r = .ok (.sequence .seq items start, r') := by
  obtain ⟨t, htoken, hpeek⟩ := peek_of_kinds h
  refine ⟨t.start, fun hitems => ?_⟩
  rw [readNode, bind_of_ok hpeek]
  simp only [htoken]
  rw [bind_of_ok (readProperties_of_kinds h (by simp) (by simp)), bind_of_ok hpeek]
  simp only [htoken]
  rw [bind_of_ok (resolveTag_none _)]
  exact collection_of_ok t.start .seq .sequence hitems

end

inductive LineNodes : Line → Node × Node → Prop
  | mk (l : Line) (keyMark mark : Mark) : LineNodes l
      (.scalar (plainTag (String.ofList l.key)) (String.ofList l.key) keyMark,
        .scalar (plainTag (String.ofList l.word)) (String.ofList l.word) mark)

inductive ItemNode : List Line → Node → Prop
  | mk {ls : List Line} {es : List (Node × Node)} (h : List.Forall₂ LineNodes ls es) (mark : Mark) :
      ItemNode ls (.mapping .map es mark)

inductive ListNode (name : List Char) : List (List Line) → Node → Prop
  | mk {items : List (List Line)} {ns : List Node} (h : List.Forall₂ ItemNode items ns) (keyMark listMark mark : Mark) :
      ListNode name items (.mapping .map
        [(.scalar (plainTag (String.ofList name)) (String.ofList name) keyMark, .sequence .seq ns listMark)] mark)

section

variable {r : NodeReader} {after : List TokenKind} {fuel : Nat}

theorem lines_read (start : Mark) {ls : List Line} (h : r.tokens.map (·.kind) = ls.flatMap Line.kinds ++ .blockEnd :: after)
    (hfuel : (ls.flatMap Line.kinds).length < fuel) :
    ∃ es r', readBlockMapping start fuel r = .ok (es, r') ∧ List.Forall₂ LineNodes ls es ∧
      r'.tokens.map (·.kind) = after := by
  induction ls generalizing r fuel with
  | nil =>
    obtain ⟨fuel, rfl⟩ := Nat.exists_eq_add_one.2 hfuel
    obtain ⟨r', hread, hrest⟩ := readBlockMapping_end start fuel h
    exact ⟨[], r', hread, .nil, hrest⟩
  | cons line ls ih =>
    have hlength : ((line :: ls).flatMap Line.kinds).length = (ls.flatMap Line.kinds).length + 4 :=
      List.length_append.trans (Nat.add_comm _ _)
    obtain ⟨fuel, rfl⟩ := Nat.exists_eq_add_of_le' (show 2 ≤ fuel by omega)
    obtain ⟨keyMark, r₁, hrest₁, hentry⟩ := readBlockMapping_entry start fuel h rfl
    obtain ⟨mark, r₂, hnode, hrest₂⟩ := readNode_scalar hrest₁ { block := true, indentless := true } fuel
    obtain ⟨es, r₃, hmore, hes, hrest₃⟩ := ih hrest₂ (show _ < fuel + 1 by omega)
    exact ⟨_, r₃, hentry hnode hmore, .cons (.mk line keyMark mark) hes, hrest₃⟩

theorem items_read (items : List (List Line)) (start : Mark)
    (h : r.tokens.map (·.kind) = items.flatMap itemKinds ++ .blockEnd :: after)
    (hfuel : (items.flatMap itemKinds).length < fuel) :
    ∃ ns r', readBlockSequence start true fuel r = .ok (ns, r') ∧ List.Forall₂ ItemNode items ns ∧
      r'.tokens.map (·.kind) = .blockEnd :: after := by
  induction items generalizing r fuel with
  | nil =>
    obtain ⟨fuel, rfl⟩ := Nat.exists_eq_add_one.2 hfuel
    exact ⟨[], r, readBlockSequence_end start fuel h (by simp), .nil, h⟩
  | cons ls items ih =>
    have hlength : ((ls :: items).flatMap itemKinds).length =
        (ls.flatMap Line.kinds).length + 3 + (items.flatMap itemKinds).length := by
      rw [List.flatMap_cons, List.length_append, itemKinds]
      simp only [List.length_append, List.length_cons, List.length_nil]
    have hkinds : r.tokens.map (·.kind) = .blockEntry :: .blockMappingStart :: (ls.flatMap Line.kinds ++ .blockEnd ::
        (items.flatMap itemKinds ++ .blockEnd :: after)) := by
      rw [h]
      simp [itemKinds]
    obtain ⟨fuel, rfl⟩ := Nat.exists_eq_add_of_le' (show 2 ≤ fuel by omega)
    obtain ⟨r₁, hrest₁, hitem⟩ := readBlockSequence_item start (fuel + 1) hkinds rfl
    obtain ⟨mark, r₂, hrest₂, hnode⟩ := readNode_blockMapping fuel hrest₁
    obtain ⟨es, r₃, hlines, hes, hrest₃⟩ := lines_read mark hrest₂ (show _ < fuel by omega)
    obtain ⟨ns, r₄, hmore, hns, hrest₄⟩ := ih hrest₃ (show _ < fuel + 1 by omega)
    exact ⟨_, r₄, hitem (hnode hlines) hmore, .cons (.mk hes mark) hns, hrest₄⟩

theorem list_read {name : List Char} {ls : List Line} {items : List (List Line)}
    (h : r.tokens.map (·.kind) = listKinds name (ls :: items) ++ after)
    (hfuel : (listKinds name (ls :: items)).length ≤ fuel) :
    ∃ n r', readNode { block := true } fuel r = .ok (n, r') ∧ ListNode name (ls :: items) n ∧
      r'.tokens.map (·.kind) = after := by
  have hlength : (listKinds name (ls :: items)).length = ((ls :: items).flatMap itemKinds).length + 5 := by
    rw [listKinds]
    simp only [List.length_append, List.length_cons, List.length_nil]
  have hkinds : r.tokens.map (·.kind) = .blockMappingStart :: .key :: .scalar (String.ofList name) true :: .value ::
      ((ls :: items).flatMap itemKinds ++ .blockEnd :: after) := by
    rw [h]
    simp [listKinds]
  obtain ⟨fuel, rfl⟩ := Nat.exists_eq_add_of_le' (show 4 ≤ fuel by omega)
  obtain ⟨mark, r₁, hrest₁, hnode⟩ := readNode_blockMapping (fuel + 3) hkinds
  obtain ⟨keyMark, r₂, hrest₂, hentry⟩ := readBlockMapping_entry mark (fuel + 1) hrest₁ rfl
  obtain ⟨listMark, hlist⟩ := readNode_indentless (fuel + 1) hrest₂
  obtain ⟨ns, r₃, hitems, hns, hrest₃⟩ := items_read (ls :: items) listMark hrest₂ (show _ < fuel + 1 by omega)
  obtain ⟨r₄, hend, hrest₄⟩ := readBlockMapping_end mark (fuel + 1) hrest₃
  exact ⟨_, r₄, hnode (hentry (hlist hitems) hend), .mk hns keyMark listMark mark, hrest₄⟩

end

theorem ofText?_list {name : List Char} (hname : IsWord name) (hshort : name.length ≤ 1024) {items : List (List Line)}
    (hne : items ≠ []) (hitems : ∀ ls ∈ items, AreProper ls) :
    ∃ n, Node.ofText? (listText name items) = .ok (some n) ∧ ListNode name items n := by
  obtain ⟨ls, items, rfl⟩ := List.exists_cons_of_ne_nil hne
  obtain ⟨hls, hitems⟩ := List.forall_mem_cons.1 hitems
  have hkinds := Lexer.tokens_list hname hshort hls hitems
  exact ofText?_of_kinds hkinds rfl rfl fun fuel hread hfuel => list_read hread (by omega)

end ReleaseMatch.Yaml
