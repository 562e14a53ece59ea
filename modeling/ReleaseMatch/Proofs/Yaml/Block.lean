import ReleaseMatch.Proofs.Yaml.Flow
set_option autoImplicit false

/-!
# Tokens in block style

One step of a lexer outside of brackets, in lines that hold a word as a key and a word that it stands for, and
perhaps a hyphen in front of them. A key may have to begin at a place, so the column counts here.
-/
namespace ReleaseMatch.Yaml

open Number

/-! Places -/

theorem Cursor.advance_break {rest : List Char} {c : Cursor} (h : c.rest = '\n' :: rest) :
    c.advance = ⟨rest, ⟨c.mark.index + 1, c.mark.line + 1, 0⟩⟩ := by
  rw [Cursor.advance, h]
  rfl

/-- What a line begins with: nothing that separates documents either. -/
structure StartsLine (cs : List Char) : Prop extends StartsToken cs where
  separator : ∀ mark, (Cursor.mk cs mark).atSeparator = false

theorem startsLine_nil : StartsLine [] := ⟨startsToken_nil, fun _ => rfl⟩

theorem startsLine_hyphen (rest : List Char) : StartsLine ('-' :: ' ' :: rest) :=
  ⟨startsToken_of_isPlainAscii (by decide) (by decide) (by decide) _, fun _ => rfl⟩

theorem startsLine_word {word : List Char} (hword : IsWord word) (rest : List Char) : StartsLine (word ++ rest) := by
  have hletter := hword.letters
  obtain ⟨negative, c, ds, hc, rfl⟩ := hword.start
  have hne {d : Char} (hd : d.isAlphanum = false) : c ≠ d := ne_of_isAlphanum hc hd
  cases negative with
  | true =>
    refine ⟨startsToken_of_isPlainAscii (by decide) (by decide) (by decide) _, fun mark => ?_⟩
    simp [Cursor.atSeparator, signed, hne (d := '-') rfl]
  | false =>
    have hplain := hletter c List.mem_cons_self
    rw [isWordLetter, Bool.and_eq_true] at hplain
    refine ⟨startsToken_of_isPlainAscii hplain.1 (hne rfl) (hne rfl) _, fun mark => ?_⟩
    simp [Cursor.atSeparator, signed, hne (d := '-') rfl, hne (d := '.') rfl]

/-! Plain scalars -/

section

variable {c : Cursor} {rest : List Char} {blanks : Nat}

theorem plainBreaks_blanks (hrest : StartsLine rest) {fuel : Nat} (hfuel : blanks ≤ fuel)
    (h : c.rest = List.replicate blanks ' ' ++ rest) : plainBreaks fuel c = (some [], c.forward blanks) := by
  induction blanks generalizing c fuel with
  | zero =>
    have hpeek : c.peek = rest.headD '\x00' := by rw [Cursor.peek_eq, h]; rfl
    cases fuel with
    | zero => rfl
    | succ fuel =>
      rw [plainBreaks, hpeek, if_neg hrest.blank, hrest.line]
      rfl
  | succ blanks ih =>
    obtain ⟨fuel, rfl⟩ := Nat.exists_eq_succ_of_ne_zero (Nat.ne_zero_of_lt hfuel)
    rw [plainBreaks, if_pos (Cursor.peek_of_rest h), Cursor.forward_succ]
    exact ih (Nat.le_of_succ_le_succ hfuel) (by rw [Cursor.rest_advance, h]; rfl)

theorem plainGap_break (hrest : StartsLine rest) (h : c.rest = '\n' :: (List.replicate blanks ' ' ++ rest)) :
    plainGap c = ⟨[' '], true, ⟨rest, ⟨c.mark.index + 1 + blanks, c.mark.line + 1, blanks⟩⟩⟩ := by
  have hspan : c.spanWhile (· == ' ') = ([], c) := by rw [Cursor.spanWhile_eq, h]; rfl
  have hbreak : c.lineBreak = (['\n'], c.advance) := by
    rw [Cursor.lineBreak, h]
    rfl
  have hadvance := Cursor.advance_break h
  have hseparator : c.advance.atSeparator = false := by
    rw [hadvance]
    cases blanks with
    | zero => exact hrest.separator _
    | succ n => rfl
  have hlength : blanks ≤ c.advance.rest.length := by
    rw [hadvance, List.length_append, List.length_replicate]
    exact Nat.le_add_right _ _
  have hnext : c.advance.rest = List.replicate blanks ' ' ++ rest := by rw [hadvance]
  have hisBreak : isBreak '\n' = true := rfl
  rw [plainGap, hspan]
  dsimp only
  rw [Cursor.peek_of_rest h, hisBreak, if_pos rfl, hbreak]
  dsimp only
  rw [hseparator, if_neg Bool.false_ne_true, plainBreaks_blanks hrest hlength hnext, Cursor.forward_blanks hnext, hadvance]
  simp [foldBreaks]

/-- What a word ends with outside of brackets. -/
inductive EndsWord : List Char → Prop
  | line (rest : List Char) : EndsWord ('\n' :: rest)
  | key {stop : Char} (hstop : isBlankOrEnd stop = true) (rest : List Char) : EndsWord (':' :: stop :: rest)

theorem plainWord_block {word : List Char} (hword : ∀ d ∈ word, isWordLetter d = true) (hrest : EndsWord rest) :
    plainWord false (word ++ rest) = word := by
  induction word with
  | nil =>
    cases hrest with
    | line rest => rfl
    | key hstop rest =>
      have hcolon : isBlankOrEnd ':' = false := rfl
      simp [plainWord, hcolon, endsPlainIn, hstop]
  | cons d word ih =>
    have hd := hword d List.mem_cons_self
    simp only [isWordLetter, Bool.and_eq_true, Bool.not_eq_true', List.contains_eq_mem, List.mem_cons,
      decide_eq_false_iff_not, not_or] at hd
    rw [List.cons_append, plainWord, ih fun e he => hword e (List.mem_cons_of_mem _ he)]
    simp [isBlankOrEnd_of_isPlainAscii hd.1, hd.2]

end

namespace Lexer

variable {l : Lexer} {blocks : List Int} {kinds : List TokenKind} {column blanks : Nat} {rest : List Char}

/-- A lexer outside of brackets: the columns of the blocks around it, from the inside, the kinds of its tokens, its
own column and what is left of the text. No key is open. -/
structure Lies (blocks : List Int) (kinds : List TokenKind) (column : Nat) (rest : List Char) (l : Lexer) : Prop where
  depth : l.depth = 0
  kinds : l.tokens.map (·.kind) = kinds
  rest : l.cursor.rest = rest
  column : l.cursor.mark.column = column
  done : l.done = false
  blocks : l.indent :: l.indents = blocks
  keys : l.keys = []

/-! Steps -/

theorem skipSpace_break (hdepth : l.depth = 0) (hrest : StartsToken rest) (h : l.cursor.rest = '\n' :: rest) :
    skipSpace (l.cursor.rest.length + 1) l.skipByteOrder = { l with cursor := l.cursor.advance, allowKey := true } := by
  have horder : l.cursor.rest.headD '\x00' ≠ '\uFEFF' := by
    rw [h]
    exact show '\n' ≠ '\uFEFF' by decide
  have hskip : l.cursor.skipBlanks = l.cursor := by
    rw [Cursor.skipBlanks, Cursor.skipWhile_eq _ _ (Nat.le_refl _), h]
    rfl
  have hbreak : l.cursor.lineBreak = (['\n'], l.cursor.advance) := by
    rw [Cursor.lineBreak, h]
    rfl
  have hisBreak : isBreak '\n' = true := rfl
  have hnext : l.cursor.advance.rest = List.replicate 0 ' ' ++ rest := by rw [Cursor.rest_advance, h]; rfl
  have hallow : (l.allowKey || !l.inFlow) = true := by rw [inFlow, hdepth]; exact Bool.or_true _
  rw [skipByteOrder_eq horder, skipSpace, hskip, Cursor.skipComment, Cursor.peek_of_rest h,
    if_neg (show '\n' ≠ '#' by decide), Cursor.peek_of_rest h, hisBreak, if_pos rfl, hbreak, hallow, h, List.length_cons]
  exact skipSpace_succ_of_startsToken (l := { l with cursor := l.cursor.advance, allowKey := true }) hrest hnext _

def Recent (l : Lexer) : Prop := ∀ k ∈ l.keys, l.isStale k.2 = false

theorem Recent.dropStale (h : l.Recent) : l.dropStale = .ok l := by
  have hfind : l.keys.find? (fun k => l.isStale k.2 && k.2.required) = none := by
    rw [List.find?_eq_none]
    intro k hk
    rw [h k hk]
    exact Bool.false_ne_true
  have hfilter : l.keys.filter (fun k => !l.isStale k.2) = l.keys := by
    rw [List.filter_eq_self]
    intro k hk
    rw [h k hk]
    rfl
  rw [Lexer.dropStale, hfind]
  dsimp only
  rw [hfilter]

theorem recent_of_keys (h : l.keys = []) : l.Recent := fun _ hk => absurd (h ▸ hk) List.not_mem_nil

theorem fetch_eq {l₁ l₂ : Lexer} (hspace : skipSpace (l.cursor.rest.length + 1) l.skipByteOrder = l₁)
    (hrecent : l₁.Recent) (htoken : (l₁.unwindTo l₁.cursor.column).fetchToken = .ok l₂) (hdone : l₂.done = false)
    (hrecent' : l₂.Recent) : l.fetch = .ok l₂ := by
  rw [fetch_of_token hspace hrecent.dropStale htoken, hdone, if_neg Bool.false_ne_true, hrecent'.dropStale]

theorem leads_of_fetch {l' : Lexer} (hdone : l.done = false) (hfetch : l.fetch = .ok l')
    (hshort : l'.cursor.rest.length < l.cursor.rest.length) : l.Leads l' := by
  intro fuel hfuel
  obtain ⟨fuel, rfl⟩ := Nat.exists_eq_succ_of_ne_zero (Nat.ne_zero_of_lt hfuel)
  refine ⟨fuel, by omega, ?_⟩
  rw [run_eq, hdone, if_neg Bool.false_ne_true, hfetch]

theorem unwindTo_of_le {c : Int} (h : l.indent ≤ c) : l.unwindTo c = l := by
  rw [unwindTo]
  cases l.indents with
  | nil => rfl
  | cons outer rest => rw [unwind, decide_eq_false (not_lt.2 h), Bool.and_false, if_neg Bool.false_ne_true]

theorem fetchToken_key {stop : Char} (hstop : isBlankOrEnd stop = true) (h : l.cursor.rest = ':' :: stop :: rest) :
    l.fetchToken = l.fetchValue := by
  simp [fetchToken, Cursor.peek_of_rest h, Cursor.ahead_of_rest h, h, hstop]

theorem fetchToken_hyphen (h : l.cursor.rest = '-' :: ' ' :: rest) : l.fetchToken = l.fetchBlockEntry := by
  have hseparator : l.cursor.atSeparator = false := by
    rw [Cursor.atSeparator, h]
    rfl
  have hblank : isBlankOrEnd ' ' = true := rfl
  simp [fetchToken, Cursor.peek_of_rest h, Cursor.ahead_of_rest h, h, hseparator, hblank]

/-! Blocks -/

/-- Which blocks end where a line begins at a column. -/
inductive Closes (column : Int) : List Int → List TokenKind → List Int → Prop
  | none {indent : Int} {outer : List Int} (h : indent ≤ column) : Closes column (indent :: outer) [] (indent :: outer)
  | cons {indent next : Int} {outer blocks : List Int} {ends : List TokenKind} (h : column < indent)
      (hrest : Closes column (next :: outer) ends blocks) :
      Closes column (indent :: next :: outer) (ends ++ [.blockEnd]) blocks

/-- Whether a mapping begins with a key at a column. -/
inductive Opens (column : Int) : List Int → List TokenKind → List Int → Prop
  | start {indent : Int} {outer : List Int} (h : indent < column) :
      Opens column (indent :: outer) [.blockMappingStart] (column :: indent :: outer)
  | next (outer : List Int) : Opens column (column :: outer) [] (column :: outer)

variable {blocks' outer : List Int} {ends starts : List TokenKind}

theorem Opens.head_le {c : Int} (hopens : Opens c blocks starts blocks') : ∀ indent ∈ blocks.head?, indent ≤ c := by
  intro indent hindent
  cases hopens with
  | start h => exact Option.some.inj hindent ▸ h.le
  | next outer => exact (Option.some.inj hindent).ge

theorem Lies.dropKey_eq (h : l.Lies blocks kinds column rest) : l.dropKey = .ok l := by
  rw [dropKey, h.keys]
  rfl

theorem Lies.inFlow_eq (h : l.Lies blocks kinds column rest) : l.inFlow = false := by
  rw [inFlow, h.depth]
  rfl

theorem Lies.unwindTo (h : l.Lies blocks kinds column rest) {c : Int} (hcloses : Closes c blocks ends blocks') :
    (l.unwindTo c).Lies blocks' (ends ++ kinds) column rest ∧ (l.unwindTo c).allowKey = l.allowKey := by
  induction hcloses generalizing l kinds with
  | none hle =>
    have hindent := (List.cons.inj h.blocks).1
    rw [unwindTo_of_le (hindent.trans_le hle)]
    exact ⟨h, rfl⟩
  | @cons indent next outer blocks' ends hlt _ ih =>
    obtain ⟨hindent, hindents⟩ := List.cons.inj h.blocks
    have hflow := h.inFlow_eq
    have hstep : l.unwindTo c =
        Lexer.unwindTo { l.add .blockEnd l.mark l.mark with indent := next, indents := outer } c := by
      rw [Lexer.unwindTo, hindents, unwind, hflow, hindent, decide_eq_true hlt]
      rfl
    rw [hstep, List.append_assoc]
    exact ih ⟨h.depth, congrArg (_ :: ·) h.kinds, h.rest, h.column, h.done, rfl, h.keys⟩

theorem Lies.forward_blanks (h : l.Lies blocks kinds column (List.replicate blanks ' ' ++ rest)) :
    Lies blocks kinds (column + blanks) rest { l with cursor := l.cursor.forward blanks } := by
  have hforward := Cursor.forward_blanks h.rest
  refine ⟨h.depth, h.kinds, ?_, ?_, h.done, h.blocks, h.keys⟩
  · rw [hforward]
  · rw [hforward, h.column]

/-- Before the next token blocks end that do not reach to its column. -/
theorem Lies.leads {l₁ : Lexer} (h : l₁.Lies blocks kinds column rest) (hcloses : Closes column blocks ends blocks')
    (hdone : l.done = false) (hspace : skipSpace (l.cursor.rest.length + 1) l.skipByteOrder = l₁)
    (hlength : rest.length ≤ l.cursor.rest.length) :
    ∃ l₂ : Lexer, l₂.Lies blocks' (ends ++ kinds) column rest ∧ l₂.allowKey = l₁.allowKey ∧
      ∀ l₃ : Lexer, l₂.fetchToken = .ok l₃ → l₃.done = false → l₃.Recent → l₃.cursor.rest.length < rest.length →
        l.Leads l₃ := by
  obtain ⟨hunwound, hallow⟩ := h.unwindTo hcloses
  refine ⟨_, hunwound, hallow, fun l₃ htoken hdone' hrecent hshort => leads_of_fetch hdone ?_ (hshort.trans_le hlength)⟩
  refine fetch_eq hspace (recent_of_keys h.keys) ?_ hdone' hrecent
  rw [Cursor.column, h.column]
  exact htoken

theorem Lies.leads_blanks (blanks : Nat) (h : l.Lies blocks kinds column (List.replicate blanks ' ' ++ rest))
    (hrest : StartsToken rest) (hcloses : Closes (column + blanks : Nat) blocks ends blocks') :
    ∃ l₁ : Lexer, l₁.Lies blocks' (ends ++ kinds) (column + blanks) rest ∧ l₁.allowKey = l.allowKey ∧
      ∀ l₂ : Lexer, l₁.fetchToken = .ok l₂ → l₂.done = false → l₂.Recent → l₂.cursor.rest.length < rest.length →
        l.Leads l₂ := by
  refine h.forward_blanks.leads hcloses h.done (skipSpace_blanks blanks hrest h.rest) ?_
  rw [h.rest, List.length_append]
  exact Nat.le_add_left _ _

theorem Lies.leads_break (h : l.Lies blocks kinds column ('\n' :: rest)) (hrest : StartsToken rest)
    (hcloses : Closes 0 blocks ends blocks') :
    ∃ l₁ : Lexer, l₁.Lies blocks' (ends ++ kinds) 0 rest ∧ l₁.allowKey = true ∧
      ∀ l₂ : Lexer, l₁.fetchToken = .ok l₂ → l₂.done = false → l₂.Recent → l₂.cursor.rest.length < rest.length →
        l.Leads l₂ := by
  have hadvance := Cursor.advance_break h.rest
  have hline : Lies blocks kinds 0 rest { l with cursor := l.cursor.advance, allowKey := true } :=
    ⟨h.depth, h.kinds, by rw [hadvance], by rw [hadvance], h.done, h.blocks, h.keys⟩
  refine hline.leads hcloses h.done (skipSpace_break h.depth hrest h.rest) ?_
  rw [h.rest]
  exact Nat.le_succ _

theorem Lies.insertAt (later : List TokenKind) {number : Nat} (h : l.Lies blocks (later ++ kinds) column rest)
    (hnumber : number + later.length = l.count) (kind : TokenKind) (mark : Mark) :
    (l.insertAt number kind mark).Lies blocks (later ++ kind :: kinds) column rest := by
  have hlater : l.count - number = later.length := by omega
  refine ⟨h.depth, ?_, h.rest, h.column, h.done, h.blocks, h.keys⟩
  rw [Lexer.insertAt, hlater]
  refine List.map_append.trans ?_
  rw [List.map_cons, List.map_take, List.map_drop, h.kinds, List.take_left, List.drop_left]

theorem Lies.indicator {ch : Char} (hch : isPlainAscii ch = true) (h : l.Lies blocks kinds column (ch :: rest))
    (kind : TokenKind) (allowKey : Bool) : (l.indicator kind 1 allowKey).Lies blocks (kind :: kinds) (column + 1) rest := by
  have hforward : l.cursor.forward 1 = ⟨rest, _⟩ :=
    Cursor.forward_of_rest [ch] (List.forall_mem_singleton.2 hch) h.rest
  refine ⟨h.depth, congrArg (_ :: ·) h.kinds, ?_, ?_, h.done, h.blocks, h.keys⟩
  · rw [Lexer.indicator, hforward]
  · rw [Lexer.indicator, hforward, h.column]
    rfl

theorem Lies.indentTo {indent : Int} {outer : List Int} {c : Nat} (h : l.Lies (indent :: outer) kinds column rest)
    (hlt : indent < c) :
    ∃ l', l.indentTo c = some l' ∧ l'.Lies (c :: indent :: outer) kinds column rest ∧ l'.count = l.count := by
  obtain ⟨hindent, -⟩ := List.cons.inj h.blocks
  rw [Lexer.indentTo, hindent, if_pos hlt]
  exact ⟨_, rfl, ⟨h.depth, h.kinds, h.rest, h.column, h.done, congrArg (_ :: ·) (hindent ▸ h.blocks), h.keys⟩, rfl⟩

/-! Keys -/

section

variable {word : List Char} {stop : Char} (hword : IsWord word)

def behindWord (l : Lexer) (word : List Char) : Lexer :=
  { l.add (.scalar (String.ofList word) true) l.mark (l.cursor.forward word.length).mark with
    cursor := l.cursor.forward word.length
    allowKey := false
    keys := [(0, ⟨l.count, decide (l.indent = l.cursor.column), l.mark⟩)] }

include hword

theorem Lies.cursor_forward (h : l.Lies blocks kinds column (word ++ rest)) :
    l.cursor.forward word.length = ⟨rest, ⟨l.mark.index + word.length, l.mark.line, column + word.length⟩⟩ := by
  rw [Cursor.forward_of_rest word (fun ch hch => ?_) h.rest, h.column]
  · rfl
  · have hletter := hword.letters ch hch
    rw [isWordLetter, Bool.and_eq_true] at hletter
    exact hletter.1

theorem Lies.behindWord (h : l.Lies blocks kinds column (word ++ rest)) : Lies blocks
    (.scalar (String.ofList word) true :: kinds) (column + word.length) rest { l.behindWord word with keys := [] } := by
  have hforward := h.cursor_forward hword
  refine ⟨h.depth, congrArg (_ :: ·) h.kinds, ?_, ?_, h.done, h.blocks, rfl⟩
  · exact congrArg Cursor.rest hforward
  · exact congrArg (·.mark.column) hforward

theorem Lies.fetchPlain_key (hstop : isBlankOrEnd stop = true)
    (h : l.Lies blocks kinds column (word ++ ':' :: stop :: rest)) (hallow : l.allowKey = true) :
    l.fetchPlain = .ok (l.behindWord word) := by
  have hflow := h.inFlow_eq
  have hsave : l.saveKey =
      .ok { l with keys := [(0, ⟨l.count, decide (l.indent = l.cursor.column), l.mark⟩)] } := by
    rw [saveKey, if_pos hallow, h.dropKey_eq]
    simp only [bind, Except.bind, pure, Except.pure, hflow, h.keys, h.depth, List.nil_append, Bool.not_false, Bool.true_and]
  have hbehind : (l.cursor.forward word.length).rest = ':' :: stop :: rest := by
    rw [Cursor.rest_forward, h.rest, List.drop_left]
  have hscan := scanPlain_of_gap (l.indent + 1) hword.ne_nil hword.letters h.rest
    (plainWord_block hword.letters (.key hstop rest)) (plainGap_of_head (by decide) rfl hbehind) (.inl rfl)
  have hflow' : inFlow { l with keys := [(0, ⟨l.count, decide (l.indent = l.cursor.column), l.mark⟩)] } = false := hflow
  rw [fetchPlain, hsave]
  simp only [bind, Except.bind, pure, Except.pure, hflow', hscan]
  rfl

theorem Lies.fetchValue (h : l.Lies blocks kinds column (word ++ ':' :: rest)) (hopens : Opens column blocks starts blocks') :
    ∃ l', (l.behindWord word).fetchValue = .ok l' ∧ l'.allowKey = false ∧
      l'.Lies blocks' (.value :: .scalar (String.ofList word) true :: .key :: (starts ++ kinds))
        (column + word.length + 1) rest := by
  have hlookup : (l.behindWord word).keys.lookup (l.behindWord word).depth =
      some ⟨l.count, decide (l.indent = l.cursor.column), l.mark⟩ := by
    rw [show (l.behindWord word).depth = 0 from h.depth]
    rfl
  have hfilter : (l.behindWord word).keys.filter (·.1 != (l.behindWord word).depth) = [] := by
    rw [show (l.behindWord word).depth = 0 from h.depth]
    rfl
  have hkey := (h.behindWord hword).insertAt [_] (show l.count + 1 = _ from rfl) .key l.mark
  have hflow : (({ l.behindWord word with keys := [] } : Lexer).insertAt l.count .key l.mark).inFlow = false := by
    rw [inFlow, hkey.depth]
    rfl
  rw [Lexer.fetchValue, hlookup]
  dsimp only
  rw [hfilter, hflow, if_neg Bool.false_ne_true]
  obtain rfl : l.mark.column = column := h.column
  cases hopens with
  | start hlt =>
    obtain ⟨l', hindent, hopened, hcount⟩ := hkey.indentTo hlt
    rw [hindent]
    have hstart := hopened.insertAt [_, _] (show l.count + 2 = _ from hcount.symm) .blockMappingStart l.mark
    exact ⟨_, rfl, rfl, hstart.indicator (by decide) .value false⟩
  | next outer =>
    obtain ⟨hindent, -⟩ := List.cons.inj hkey.blocks
    rw [Lexer.indentTo, hindent, if_neg (lt_irrefl _)]
    exact ⟨_, rfl, rfl, hkey.indicator (by decide) .value false⟩

theorem Lies.recent_behindWord (h : l.Lies blocks kinds column (word ++ rest)) (hshort : word.length ≤ 1024) :
    (l.behindWord word).Recent := by
  intro k hk
  obtain rfl := List.mem_singleton.1 hk
  have hmark : (l.behindWord word).mark = ⟨l.mark.index + word.length, l.mark.line, column + word.length⟩ :=
    congrArg Cursor.mark (h.cursor_forward hword)
  rw [isStale, hmark, Bool.or_eq_false_iff, decide_eq_false_iff_not, not_lt]
  exact ⟨bne_self_eq_false _, Nat.add_le_add_left hshort _⟩

theorem length_lt_of_word (rest : List Char) : rest.length < (word ++ rest).length := by
  rw [List.length_append]
  exact Nat.lt_add_of_pos_left (List.length_pos_iff.2 hword.ne_nil)

theorem Lies.colon (hshort : word.length ≤ 1024) (hstop : isBlankOrEnd stop = true)
    (h : l.Lies blocks kinds column (word ++ ':' :: stop :: rest)) (hopens : Opens column blocks starts blocks') :
    ∃ l', (l.behindWord word).Leads l' ∧ l'.allowKey = false ∧
      l'.Lies blocks' (.value :: .scalar (String.ofList word) true :: .key :: (starts ++ kinds))
        (column + word.length + 1) (stop :: rest) := by
  have hrest : (l.behindWord word).cursor.rest = ':' :: stop :: rest := (h.behindWord hword).rest
  have hrecent := h.recent_behindWord hword hshort
  obtain ⟨l', hvalue, hallow, hlies⟩ := h.fetchValue hword hopens
  have hspace := skipSpace_blanks (l := l.behindWord word) 0
    (startsToken_of_isPlainAscii (by decide) (by decide) (by decide) _) hrest
  have hindent : (l.behindWord word).indent ≤ ((l.behindWord word).cursor.column : Int) := by
    have hle := hopens.head_le l.indent (by rw [← h.blocks]; rfl)
    have hcolumn : (l.behindWord word).cursor.column = column + word.length := (h.behindWord hword).column
    rw [hcolumn]
    exact hle.trans (Int.ofNat_le.2 (Nat.le_add_right _ _))
  have hfetch : (l.behindWord word).fetch = .ok l' := by
    refine fetch_eq hspace hrecent ?_ hlies.done (recent_of_keys hlies.keys)
    change (Lexer.unwindTo (l.behindWord word) (l.behindWord word).cursor.column).fetchToken = _
    rw [unwindTo_of_le hindent, fetchToken_key hstop hrest]
    exact hvalue
  refine ⟨l', leads_of_fetch h.done hfetch ?_, hallow, hlies⟩
  rw [hlies.rest, hrest]
  exact Nat.lt_succ_self _

theorem Lies.key (blanks : Nat) (hshort : word.length ≤ 1024) (hstop : isBlankOrEnd stop = true)
    (hallow : l.allowKey = true)
    (h : l.Lies blocks kinds column (List.replicate blanks ' ' ++ (word ++ ':' :: stop :: rest)))
    (hcloses : Closes (column + blanks : Nat) blocks ends blocks') {blocks'' : List Int}
    (hopens : Opens (column + blanks : Nat) blocks' starts blocks'') :
    ∃ l', l.Leads l' ∧ l'.allowKey = false ∧
      l'.Lies blocks'' (.value :: .scalar (String.ofList word) true :: .key :: (starts ++ (ends ++ kinds)))
        (column + blanks + word.length + 1) (stop :: rest) := by
  obtain ⟨l₁, hlies₁, hallow₁, hleads₁⟩ := h.leads_blanks blanks (startsLine_word hword _).toStartsToken hcloses
  obtain ⟨l₂, hleads₂, hallow₂, hlies₂⟩ := hlies₁.colon hword hshort hstop hopens
  have hrest : (l₁.behindWord word).cursor.rest = ':' :: stop :: rest := (hlies₁.behindWord hword).rest
  refine ⟨l₂, (hleads₁ (l₁.behindWord word) ?_ hlies₁.done (hlies₁.recent_behindWord hword hshort) ?_).trans hleads₂,
    hallow₂, hlies₂⟩
  · rw [fetchToken_word hword hlies₁.rest]
    exact hlies₁.fetchPlain_key hword hstop (hallow₁.trans hallow)
  · rw [hrest]
    exact length_lt_of_word hword _

theorem Lies.fetchPlain_scalar {indent : Int} {next : Nat} (hrest : StartsLine rest) (hallow : l.allowKey = false)
    (hnext : (next : Int) ≤ indent)
    (h : l.Lies (indent :: outer) kinds column (word ++ '\n' :: (List.replicate next ' ' ++ rest))) :
    ∃ l', l.fetchPlain = .ok l' ∧ l'.allowKey = true ∧
      l'.Lies (indent :: outer) (.scalar (String.ofList word) true :: kinds) next rest := by
  obtain ⟨hindent, -⟩ := List.cons.inj h.blocks
  have hflow := h.inFlow_eq
  have hsave : l.saveKey = .ok l := by rw [saveKey, hallow]; rfl
  have hbehind : (l.cursor.forward word.length).rest = '\n' :: (List.replicate next ' ' ++ rest) := by
    rw [Cursor.rest_forward, h.rest, List.drop_left]
  have hends : (next : Int) < l.indent + 1 := by omega
  have hscan := scanPlain_of_gap (l.indent + 1) hword.ne_nil hword.letters h.rest (plainWord_block hword.letters (.line _))
    (plainGap_break hrest hbehind) (.inr ⟨rfl, hends⟩)
  rw [fetchPlain, hsave]
  simp only [bind, Except.bind, pure, Except.pure, hflow, hscan]
  exact ⟨_, rfl, rfl, h.depth, congrArg (_ :: ·) h.kinds, rfl, rfl, h.done, h.blocks, h.keys⟩

/-- A word at the end of a line, behind a key, is what the key stands for. -/
theorem Lies.scalar {indent : Int} (next : Nat) (hrest : StartsLine rest) (hallow : l.allowKey = false)
    (hcolumn : indent ≤ column) (hnext : (next : Int) ≤ indent)
    (h : l.Lies (indent :: outer) kinds column (' ' :: (word ++ '\n' :: (List.replicate next ' ' ++ rest)))) :
    ∃ l', l.Leads l' ∧ l'.allowKey = true ∧
      l'.Lies (indent :: outer) (.scalar (String.ofList word) true :: kinds) next rest := by
  have hline := startsLine_word hword ('\n' :: (List.replicate next ' ' ++ rest))
  have hcloses : Closes (column + 1 : Nat) (indent :: outer) [] (indent :: outer) := .none (by omega)
  have hshort : rest.length < (word ++ '\n' :: (List.replicate next ' ' ++ rest)).length := by
    rw [List.length_append, List.length_cons, List.length_append]
    omega
  obtain ⟨l₁, hlies₁, hallow₁, hleads₁⟩ := Lies.leads_blanks 1 h hline.toStartsToken hcloses
  obtain ⟨l₂, hstep, hallow₂, hlies₂⟩ := hlies₁.fetchPlain_scalar hword hrest (hallow₁.trans hallow) hnext
  refine ⟨l₂, hleads₁ l₂ ?_ hlies₂.done (recent_of_keys hlies₂.keys) ?_, hallow₂, hlies₂⟩
  · rw [fetchToken_word hword hlies₁.rest]
    exact hstep
  · rw [hlies₂.rest]
    exact hshort

end

/-! Items -/

theorem Lies.fetchBlockEntry (h : l.Lies (0 :: outer) kinds 0 ('-' :: ' ' :: rest)) (hallow : l.allowKey = true) :
    ∃ l', l.fetchBlockEntry = .ok l' ∧ l'.allowKey = true ∧ l'.Lies (0 :: outer) (.blockEntry :: kinds) 1 (' ' :: rest) := by
  obtain ⟨hindent, -⟩ := List.cons.inj h.blocks
  have hflow := h.inFlow_eq
  have hcolumn : l.cursor.column = 0 := h.column
  have hstart : l.startBlock .blockSequenceStart "sequence entries" = .ok l := by
    rw [startBlock, hflow, hallow, Lexer.indentTo, hindent, hcolumn]
    rfl
  rw [Lexer.fetchBlockEntry, hstart]
  simp only [bind, Except.bind, pure, Except.pure, h.dropKey_eq]
  exact ⟨_, rfl, rfl, h.indicator (by decide) .blockEntry true⟩

theorem Lies.hyphen_of_leads {l₁ : Lexer} (h : l₁.Lies (0 :: outer) kinds 0 ('-' :: ' ' :: rest))
    (hallow : l₁.allowKey = true)
    (hleads : ∀ l₂ : Lexer, l₁.fetchToken = .ok l₂ → l₂.done = false → l₂.Recent →
      l₂.cursor.rest.length < ('-' :: ' ' :: rest).length → l.Leads l₂) :
    ∃ l', l.Leads l' ∧ l'.allowKey = true ∧ l'.Lies (0 :: outer) (.blockEntry :: kinds) 1 (' ' :: rest) := by
  obtain ⟨l₂, hstep, hallow₂, hlies₂⟩ := h.fetchBlockEntry hallow
  refine ⟨l₂, hleads l₂ ?_ hlies₂.done (recent_of_keys hlies₂.keys) ?_, hallow₂, hlies₂⟩
  · rw [fetchToken_hyphen h.rest]
    exact hstep
  · rw [hlies₂.rest]
    exact Nat.lt_succ_self _

theorem Lies.hyphen (h : l.Lies blocks kinds 0 ('-' :: ' ' :: rest)) (hallow : l.allowKey = true)
    (hcloses : Closes 0 blocks ends (0 :: outer)) :
    ∃ l', l.Leads l' ∧ l'.allowKey = true ∧ l'.Lies (0 :: outer) (.blockEntry :: (ends ++ kinds)) 1 (' ' :: rest) := by
  obtain ⟨l₁, hlies₁, hallow₁, hleads₁⟩ := Lies.leads_blanks 0 h (startsLine_hyphen rest).toStartsToken hcloses
  exact hlies₁.hyphen_of_leads (hallow₁.trans hallow) hleads₁

theorem Lies.hyphen_break (h : l.Lies blocks kinds column ('\n' :: '-' :: ' ' :: rest))
    (hcloses : Closes 0 blocks ends (0 :: outer)) :
    ∃ l', l.Leads l' ∧ l'.allowKey = true ∧ l'.Lies (0 :: outer) (.blockEntry :: (ends ++ kinds)) 1 (' ' :: rest) := by
  obtain ⟨l₁, hlies₁, hallow₁, hleads₁⟩ := h.leads_break (startsLine_hyphen rest).toStartsToken hcloses
  exact hlies₁.hyphen_of_leads hallow₁ hleads₁

/-! The end -/

theorem Lies.fetch_end (h : l.Lies blocks kinds column []) (hcloses : Closes column blocks ends blocks')
    {ends' : List TokenKind} {blocks'' : List Int} (hcloses' : Closes (-1) blocks' ends' blocks'') :
    ∃ l', l.fetch = .ok l' ∧ l'.done = true ∧ l'.tokens.map (·.kind) = .streamEnd :: (ends' ++ (ends ++ kinds)) := by
  have hspace := skipSpace_blanks (l := l) 0 startsLine_nil.toStartsToken h.rest
  obtain ⟨hunwound, -⟩ := h.unwindTo hcloses
  obtain ⟨hended, -⟩ := hunwound.unwindTo hcloses'
  have htoken : ∃ l', (l.unwindTo l.cursor.column).fetchToken = .ok l' ∧ l'.done = true ∧
      l'.tokens.map (·.kind) = .streamEnd :: (ends' ++ (ends ++ kinds)) := by
    rw [Cursor.column, h.column, fetchToken_end hunwound.rest, fetchEnd, hended.dropKey_eq]
    exact ⟨_, rfl, rfl, congrArg (_ :: ·) hended.kinds⟩
  obtain ⟨l', htoken, hdone, hkinds⟩ := htoken
  refine ⟨l', ?_, hdone, hkinds⟩
  rw [fetch_of_token hspace (recent_of_keys h.keys).dropStale htoken, if_pos hdone]

theorem Lies.run_end (h : l.Lies blocks kinds column []) (hcloses : Closes column blocks ends blocks')
    {ends' : List TokenKind} {blocks'' : List Int} (hcloses' : Closes (-1) blocks' ends' blocks'') {fuel : Nat}
    (hfuel : 0 < fuel) :
    (run fuel l).1.map (·.kind) = (.streamEnd :: (ends' ++ (ends ++ kinds))).reverse ∧ (run fuel l).2 = none := by
  obtain ⟨l', hfetch, hdone, hkinds⟩ := h.fetch_end hcloses hcloses'
  rw [run_of_done hfuel h.done hfetch hdone, List.map_reverse, hkinds]
  exact ⟨rfl, rfl⟩

end Lexer
end ReleaseMatch.Yaml
