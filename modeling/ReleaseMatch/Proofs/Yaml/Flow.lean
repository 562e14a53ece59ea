import ReleaseMatch.Proofs.Number.Numeral
import ReleaseMatch.Proofs.Yaml.Quoted
import ReleaseMatch.Yaml.Lexer
set_option autoImplicit false

/-!
# Tokens in flow style

One step of a lexer in a text of one line that consists of brackets, braces, commas, colons, numbers, words
and quoted texts. No block is open there, and no key has to begin anywhere.
-/
namespace ReleaseMatch.Yaml

open Number

/-! Plain scalars -/

def isWordLetter (c : Char) : Bool :=
  isPlainAscii c && !([' ', ',', ':', '?', '[', ']', '\x7b', '\x7d', '#'].contains c)

def endsFlowScalar (c : Char) : Bool := c == ',' || c == ']' || c == '\x7d'

theorem plainWord_append {word rest : List Char} {stop : Char} (hword : ∀ c ∈ word, isWordLetter c = true)
    (hstop : endsFlowScalar stop = true) : plainWord true (word ++ stop :: rest) = word := by
  induction word with
  | nil =>
    simp only [endsFlowScalar, Bool.or_eq_true, beq_iff_eq] at hstop
    rcases hstop with (rfl | rfl) | rfl <;> rfl
  | cons c word ih =>
    have hc := hword c List.mem_cons_self
    simp only [isWordLetter, Bool.and_eq_true, Bool.not_eq_true', List.contains_eq_mem, List.mem_cons,
      decide_eq_false_iff_not, not_or] at hc
    rw [List.cons_append, plainWord, ih fun d hd => hword d (List.mem_cons_of_mem _ hd)]
    simp [isBlankOrEnd_of_isPlainAscii hc.1, hc.2]

/-- Nothing is passed over behind a plain scalar where neither a blank nor a line break follows. -/
theorem plainGap_of_head {c : Cursor} {stop : Char} {rest : List Char} (hblank : stop ≠ ' ') (hbreak : isBreak stop = false)
    (h : c.rest = stop :: rest) : plainGap c = ⟨[], false, c⟩ := by
  have hspan : c.spanWhile (· == ' ') = ([], c) := by
    rw [Cursor.spanWhile_eq, h, List.takeWhile_cons_of_neg (by simpa using hblank)]
    rfl
  rw [plainGap, hspan]
  dsimp only
  rw [Cursor.peek_of_rest h, hbreak, if_neg Bool.false_ne_true]

/-- A word is the whole of a plain scalar if nothing is passed over behind it, or if the next line is not indented. -/
theorem scanPlain_of_gap {flow : Bool} (indent : Int) {c : Cursor} {word rest : List Char} (hne : word ≠ [])
    (hletters : ∀ d ∈ word, isWordLetter d = true) (h : c.rest = word ++ rest)
    (hword : plainWord flow (word ++ rest) = word)
    {gap : Gap} (hgap : plainGap (c.forward word.length) = gap)
    (hends : gap.text = [] ∨ flow = false ∧ (gap.place.column : Int) < indent) :
    scanPlain flow indent c = ⟨word, (c.forward word.length).mark, gap.newLine, gap.place⟩ := by
  have hcomment : c.peek ≠ '#' := by
    obtain ⟨d, ds, rfl⟩ := List.exists_cons_of_ne_nil hne
    rw [Cursor.peek_of_rest h]
    rintro rfl
    exact absurd (hletters '#' List.mem_cons_self) (by decide)
  have hstop : (gap.text.isEmpty || decide (gap.place.peek = '#') ||
      !flow && decide ((gap.place.column : Int) < indent)) = true := by
    rcases hends with hends | ⟨rfl, hends⟩
    · rw [hends]
      rfl
    · rw [decide_eq_true hends]
      exact Bool.or_true _
  rw [scanPlain, plainWords]
  simp only [h, hword, hgap, hcomment, hne, List.isEmpty_iff, decide_false, Bool.false_or, List.nil_append, if_false]
  exact if_pos hstop

theorem scanPlain_word {indent : Int} {c : Cursor} {word rest : List Char} {stop : Char} (hne : word ≠ [])
    (hword : ∀ d ∈ word, isWordLetter d = true) (hstop : endsFlowScalar stop = true)
    (h : c.rest = word ++ stop :: rest) :
    scanPlain true indent c =
      ⟨word, (c.forward word.length).mark, false, c.forward word.length⟩ := by
  have hbehind : (c.forward word.length).rest = stop :: rest := by rw [Cursor.rest_forward, h, List.drop_left]
  have hplain : stop ≠ ' ' ∧ isBreak stop = false := by
    simp only [endsFlowScalar, Bool.or_eq_true, beq_iff_eq] at hstop
    rcases hstop with (rfl | rfl) | rfl <;> decide
  exact scanPlain_of_gap indent hne hword h (plainWord_append hword hstop) (plainGap_of_head hplain.1 hplain.2 hbehind) (.inl rfl)

/-- A word that is no indicator: it begins with a letter or a digit, perhaps behind a sign. -/
structure IsWord (cs : List Char) : Prop where
  letters : ∀ c ∈ cs, isWordLetter c = true
  start : ∃ negative c ds, c.isAlphanum = true ∧ cs = signed negative (c :: ds)

theorem ne_of_isAlphanum {c d : Char} (hc : c.isAlphanum = true) (hd : d.isAlphanum = false) : c ≠ d := by
  rintro rfl
  rw [hc] at hd
  cases hd

theorem IsWord.ne_nil {cs : List Char} (h : IsWord cs) : cs ≠ [] := by
  obtain ⟨negative, c, ds, -, rfl⟩ := h.start
  cases negative <;> exact List.cons_ne_nil _ _

namespace Lexer

variable {size depth : Nat} {kinds : List TokenKind} {rest : List Char} {l : Lexer} {ch : Char}

/-- A lexer in a line of flow style: its depth, the kinds of its tokens, and what is left of the text. -/
structure At (size depth : Nat) (kinds : List TokenKind) (rest : List Char) (l : Lexer) : Prop where
  depth : l.depth = depth
  kinds : l.tokens.map (·.kind) = kinds
  rest : l.cursor.rest = rest
  line : l.cursor.OnLine size
  done : l.done = false
  indent : l.indent = -1
  indents : l.indents = []
  optional : ∀ k ∈ l.keys, k.2.required = false

def fresh (l : Lexer) : Lexer := { l with keys := l.keys.filter fun k => !l.isStale k.2 }

def settled (l : Lexer) (blanks : Nat) : Lexer := { l with cursor := l.cursor.forward blanks }.fresh

theorem At.withKeys (h : l.At size depth kinds rest) {keys : List (Nat × KeyStart)}
    (hkeys : ∀ k ∈ keys, k.2.required = false) : At size depth kinds rest { l with keys } :=
  ⟨h.depth, h.kinds, h.rest, h.line, h.done, h.indent, h.indents, hkeys⟩

theorem At.withDepth (h : l.At size depth kinds rest) (d : Nat) : At size d kinds rest { l with depth := d } :=
  ⟨rfl, h.kinds, h.rest, h.line, h.done, h.indent, h.indents, h.optional⟩

theorem At.fresh (h : l.At size depth kinds rest) : l.fresh.At size depth kinds rest :=
  h.withKeys fun k hk => h.optional k (List.mem_filter.1 hk).1

theorem At.forward (h : l.At size depth kinds rest) (n : Nat) :
    At size depth kinds (rest.drop n) { l with cursor := l.cursor.forward n } :=
  ⟨h.depth, h.kinds, by rw [Cursor.rest_forward, h.rest], h.line.forward n, h.done, h.indent, h.indents,
    h.optional⟩

theorem At.settled {blanks : Nat} (h : l.At size depth kinds (List.replicate blanks ' ' ++ rest)) :
    (l.settled blanks).At size depth kinds rest := by
  have hforward := h.forward blanks
  rw [List.drop_left' List.length_replicate] at hforward
  exact hforward.fresh

theorem At.add (h : l.At size depth kinds rest) (kind : TokenKind) (start stop : Mark) :
    (l.add kind start stop).At size depth (kind :: kinds) rest :=
  ⟨h.depth, congrArg (kind :: ·) h.kinds, h.rest, h.line, h.done, h.indent, h.indents, h.optional⟩

theorem At.indicator (h : l.At size depth kinds (ch :: rest)) (kind : TokenKind) (allowKey : Bool) :
    (l.indicator kind 1 allowKey).At size depth (kind :: kinds) rest := by
  have hforward := h.forward 1
  exact ⟨h.depth, congrArg (kind :: ·) h.kinds, hforward.rest, hforward.line, h.done, h.indent, h.indents,
    h.optional⟩

/-! Keys -/

theorem At.dropStale (h : l.At size depth kinds rest) : l.dropStale = .ok l.fresh := by
  have hfind : l.keys.find? (fun k => l.isStale k.2 && k.2.required) = none := by
    rw [List.find?_eq_none]
    intro k hk
    rw [h.optional k hk, Bool.and_false]
    exact Bool.false_ne_true
  rw [Lexer.dropStale, hfind]
  rfl

theorem lookup_filter (keys : List (Nat × KeyStart)) (depth : Nat) :
    (keys.filter (·.1 != depth)).lookup depth = none := by
  rw [List.lookup_eq_none_iff]
  intro k hk
  have hne := (List.mem_filter.1 hk).2
  simpa [bne_iff_ne, ne_comm] using hne

theorem lookup_filter_of {keys : List (Nat × KeyStart)} {test : Nat × KeyStart → Bool} {depth : Nat} {k : KeyStart}
    (h : keys.lookup depth = some k) (htest : test (depth, k) = true) :
    (keys.filter test).lookup depth = some k := by
  obtain ⟨before, after, rfl, hbefore⟩ := List.lookup_eq_some_iff.1 h
  refine List.lookup_eq_some_iff.2 ⟨before.filter test, after.filter test, ?_, fun k hk => ?_⟩
  · rw [List.filter_append, List.filter_cons_of_pos htest]
  · exact hbefore k (List.mem_filter.1 hk).1

theorem At.dropKey (h : l.At size depth kinds rest) :
    l.dropKey = .ok { l with keys := l.keys.filter (·.1 != l.depth) } := by
  rw [Lexer.dropKey]
  cases hlookup : l.keys.lookup l.depth with
  | none =>
    have hall : l.keys.filter (·.1 != l.depth) = l.keys := by
      rw [List.filter_eq_self]
      intro k hk
      have hne := List.lookup_eq_none_iff.1 hlookup k hk
      simpa [bne_iff_ne, ne_comm] using hne
    rw [hall]
  | some k =>
    obtain ⟨before, after, hkeys, -⟩ := List.lookup_eq_some_iff.1 hlookup
    have hk := h.optional (l.depth, k) (by rw [hkeys]; exact List.mem_append_right _ List.mem_cons_self)
    dsimp only at hk ⊢
    rw [hk, if_neg Bool.false_ne_true]

theorem At.saveKey (h : l.At size depth kinds rest) :
    l.saveKey = .ok (if l.allowKey then
      { l with keys := l.keys.filter (·.1 != l.depth) ++ [(l.depth, ⟨l.count, false, l.mark⟩)] } else l) := by
  rw [Lexer.saveKey]
  split
  · have hrequired : decide (l.indent = (l.cursor.column : Int)) = false := by
      rw [h.indent, decide_eq_false_iff_not]
      omega
    rw [h.dropKey]
    simp only [bind, Except.bind, pure, Except.pure, hrequired, Bool.and_false]
    rfl
  · rfl

/-! Steps -/

theorem skipByteOrder_eq (h : l.cursor.rest.headD '\x00' ≠ '\uFEFF') : l.skipByteOrder = l := by
  rw [skipByteOrder, Cursor.peek_eq, decide_eq_false h, Bool.and_false, if_neg Bool.false_ne_true]

theorem skipSpace_succ_of_startsToken {blanks : Nat} (hrest : StartsToken rest)
    (h : l.cursor.rest = List.replicate blanks ' ' ++ rest)
    (fuel : Nat) : skipSpace (fuel + 1) l = { l with cursor := l.cursor.forward blanks } := by
  have htake : (List.replicate blanks ' ' ++ rest).takeWhile (· == ' ') = List.replicate blanks ' ' := by
    rw [List.takeWhile_append_of_pos fun c hc => by rw [List.eq_of_mem_replicate hc]; rfl]
    cases rest with
    | nil => exact List.append_nil _
    | cons c cs => rw [List.takeWhile_cons_of_neg (by simpa using hrest.blank), List.append_nil]
  have hskip : l.cursor.skipBlanks = l.cursor.forward blanks := by
    rw [Cursor.skipBlanks, Cursor.skipWhile_eq _ _ (Nat.le_refl _), h, htake, List.length_replicate]
  have hpeek : (l.cursor.forward blanks).peek = rest.headD '\x00' := by
    rw [Cursor.forward_blanks h, Cursor.peek_eq]
  rw [skipSpace, hskip, Cursor.skipComment, hpeek, if_neg hrest.comment, hpeek, hrest.line]
  rfl

theorem skipSpace_blanks (blanks : Nat) (hrest : StartsToken rest)
    (h : l.cursor.rest = List.replicate blanks ' ' ++ rest) :
    skipSpace (l.cursor.rest.length + 1) l.skipByteOrder = { l with cursor := l.cursor.forward blanks } := by
  have horder : l.cursor.rest.headD '\x00' ≠ '\uFEFF' := by
    rw [h]
    cases blanks with
    | zero => exact hrest.order
    | succ n => exact show ' ' ≠ '\uFEFF' by decide
  rw [skipByteOrder_eq horder, skipSpace_succ_of_startsToken hrest h]

theorem At.unwindTo (h : l.At size depth kinds rest) (column : Int) : l.unwindTo column = l := by
  rw [Lexer.unwindTo, h.indents, unwind]

/-- A step passes over blanks, forgets old keys, ends blocks and reads a token; old keys are forgotten
again unless that was the end. -/
theorem fetch_of_token {l₁ l₂ l₃ : Lexer} (hspace : skipSpace (l.cursor.rest.length + 1) l.skipByteOrder = l₁)
    (hdrop : l₁.dropStale = .ok l₂) (htoken : (l₂.unwindTo l₂.cursor.column).fetchToken = .ok l₃) :
    l.fetch = if l₃.done then .ok l₃ else l₃.dropStale := by
  rw [Lexer.fetch, hspace, hdrop]
  change (l₂.unwindTo l₂.cursor.column).fetchToken >>= _ = _
  rw [htoken]
  rfl

theorem At.fetch {blanks : Nat} (h : l.At size depth kinds (List.replicate blanks ' ' ++ ch :: rest))
    (hblank : ch ≠ ' ') (hcomment : ch ≠ '#') {l' : Lexer} (htoken : (l.settled blanks).fetchToken = .ok l')
    {depth' : Nat} {kinds' : List TokenKind} {rest' : List Char} (h' : l'.At size depth' kinds' rest') :
    l.fetch = .ok l'.fresh := by
  have hch := h.settled.line.plain ch (by rw [h.settled.rest]; exact List.mem_cons_self)
  have hspace := skipSpace_blanks blanks (startsToken_of_isPlainAscii hch hblank hcomment rest) h.rest
  rw [← h.settled.unwindTo (l.settled blanks).cursor.column] at htoken
  rw [fetch_of_token hspace (h.forward blanks).dropStale htoken, h'.done, if_neg Bool.false_ne_true, h'.dropStale]

/-! What a token begins with -/

theorem fetchToken_openSequence (h : l.cursor.rest = '[' :: rest) :
    l.fetchToken = l.fetchOpen .flowSequenceStart := by
  simp [fetchToken, Cursor.peek_of_rest h, h]

theorem fetchToken_openMapping (h : l.cursor.rest = '\x7b' :: rest) :
    l.fetchToken = l.fetchOpen .flowMappingStart := by
  simp [fetchToken, Cursor.peek_of_rest h, h]

theorem fetchToken_closeSequence (h : l.cursor.rest = ']' :: rest) :
    l.fetchToken = l.fetchClose .flowSequenceEnd := by
  simp [fetchToken, Cursor.peek_of_rest h, h]

theorem fetchToken_closeMapping (h : l.cursor.rest = '\x7d' :: rest) :
    l.fetchToken = l.fetchClose .flowMappingEnd := by
  simp [fetchToken, Cursor.peek_of_rest h, h]

theorem fetchToken_comma (h : l.cursor.rest = ',' :: rest) : l.fetchToken = l.fetchFlowEntry := by
  simp [fetchToken, Cursor.peek_of_rest h, h]

theorem fetchToken_colon (h : l.cursor.rest = ':' :: rest) (hflow : l.inFlow = true) :
    l.fetchToken = l.fetchValue := by
  simp [fetchToken, Cursor.peek_of_rest h, h, hflow]

theorem fetchToken_quote (h : l.cursor.rest = '"' :: rest) : l.fetchToken = l.fetchQuoted true := by
  simp [fetchToken, Cursor.peek_of_rest h, h]

theorem fetchToken_end (h : l.cursor.rest = []) : l.fetchToken = l.fetchEnd := by
  simp [fetchToken, h]

theorem fetchToken_word {word : List Char} (hword : IsWord word) (h : l.cursor.rest = word ++ rest) :
    l.fetchToken = l.fetchPlain := by
  obtain ⟨negative, c, ds, hc, rfl⟩ := hword.start
  have hne {d : Char} (hd : d.isAlphanum = false) : c ≠ d := ne_of_isAlphanum hc hd
  have hplain : isBlankOrEnd c = false := by
    simp [isBlankOrEnd, isSpaceOrEnd, isBreakOrEnd, isBreak, hne (d := '\t') rfl, hne (d := ' ') rfl,
      hne (d := '\x00') rfl, hne (d := '\n') rfl, hne (d := '\r') rfl, hne (d := '\u0085') rfl,
      hne (d := '\u2028') rfl, hne (d := '\u2029') rfl]
  cases negative with
  | true =>
    have hahead : l.cursor.ahead 1 = c := Cursor.ahead_of_rest h
    have hseparator : l.cursor.atSeparator = false := by
      simp [Cursor.atSeparator, h, signed, hne (d := '-') rfl]
    simp [fetchToken, startsPlain, h, signed, Cursor.peek_of_rest h, hahead, hplain, hseparator]
  | false =>
    have hpeek : l.cursor.peek = c := Cursor.peek_of_rest h
    simp [fetchToken, startsPlain, h, signed, hpeek, hplain, hne (d := '%') rfl, hne (d := '-') rfl,
      hne (d := '.') rfl, hne (d := '[') rfl, hne (d := ']') rfl, hne (d := '\x7b') rfl, hne (d := '\x7d') rfl,
      hne (d := ',') rfl, hne (d := '?') rfl, hne (d := ':') rfl, hne (d := '*') rfl, hne (d := '&') rfl,
      hne (d := '!') rfl, hne (d := '|') rfl, hne (d := '>') rfl, hne (d := '\'') rfl, hne (d := '"') rfl,
      hne (d := '#') rfl, hne (d := '@') rfl, hne (d := '\x60') rfl]

/-! Runs -/

def Leads (l l' : Lexer) : Prop :=
  ∀ fuel, l.cursor.rest.length < fuel → ∃ fuel', l'.cursor.rest.length < fuel' ∧ run fuel l = run fuel' l'

theorem Leads.refl (l : Lexer) : l.Leads l := fun fuel h => ⟨fuel, h, rfl⟩

theorem Leads.trans {l₁ l₂ l₃ : Lexer} (h : l₁.Leads l₂) (h' : l₂.Leads l₃) : l₁.Leads l₃ := by
  intro fuel hfuel
  obtain ⟨fuel₂, hfuel₂, hrun₂⟩ := h fuel hfuel
  obtain ⟨fuel₃, hfuel₃, hrun₃⟩ := h' fuel₂ hfuel₂
  exact ⟨fuel₃, hfuel₃, hrun₂.trans hrun₃⟩

theorem run_of_done {fuel : Nat} (hfuel : 0 < fuel) {l' : Lexer} (hdone : l.done = false) (hfetch : l.fetch = .ok l')
    (hdone' : l'.done = true) : run fuel l = (l'.tokens.reverse, none) := by
  obtain ⟨fuel, rfl⟩ := Nat.exists_eq_succ_of_ne_zero (Nat.ne_of_gt hfuel)
  rw [run_eq, hdone, if_neg Bool.false_ne_true, hfetch]
  cases fuel with
  | zero => rfl
  | succ fuel =>
    dsimp only
    rw [run_eq, hdone', if_pos rfl]

theorem At.leads {blanks : Nat} (h : l.At size depth kinds (List.replicate blanks ' ' ++ ch :: rest))
    (hplain : ch ≠ ' ' ∧ ch ≠ '#') {l' : Lexer} (htoken : (l.settled blanks).fetchToken = .ok l')
    {depth' : Nat} {kinds' : List TokenKind} {rest' : List Char} (h' : l'.At size depth' kinds' rest')
    (hshort : rest'.length ≤ rest.length) : l.Leads l'.fresh := by
  intro fuel hfuel
  rw [h.rest, List.length_append, List.length_cons] at hfuel
  obtain ⟨fuel, rfl⟩ := Nat.exists_eq_succ_of_ne_zero (Nat.ne_zero_of_lt hfuel)
  refine ⟨fuel, ?_, ?_⟩
  · rw [h'.fresh.rest]
    omega
  · rw [run_eq, h.done, if_neg Bool.false_ne_true, h.fetch hplain.1 hplain.2 htoken h']

/-! Tokens -/

theorem At.saves (h : l.At size depth kinds rest) :
    ∃ keys, l.saveKey = .ok { l with keys } ∧ ∀ k ∈ keys, k.2.required = false := by
  rw [h.saveKey]
  split
  · refine ⟨_, rfl, fun k hk => ?_⟩
    rcases List.mem_append.1 hk with hk | hk
    · exact h.optional k (List.mem_filter.1 hk).1
    · rw [List.mem_singleton.1 hk]
  · exact ⟨l.keys, rfl, h.optional⟩

theorem At.drops (h : l.At size depth kinds rest) :
    ∃ keys, l.dropKey = .ok { l with keys } ∧ ∀ k ∈ keys, k.2.required = false :=
  ⟨_, h.dropKey, fun k hk => h.optional k (List.mem_filter.1 hk).1⟩

theorem At.fetchOpen (h : l.At size depth kinds (ch :: rest)) (kind : TokenKind) :
    ∃ l', l.fetchOpen kind = .ok l' ∧ l'.At size (depth + 1) (kind :: kinds) rest ∧ l'.allowKey = true := by
  obtain ⟨keys, hsave, hkeys⟩ := h.saves
  have hat := ((h.withKeys hkeys).indicator kind true).withDepth (l.depth + 1)
  rw [Lexer.fetchOpen, hsave]
  exact ⟨_, rfl, h.depth ▸ hat, rfl⟩

theorem At.fetchClose (h : l.At size (depth + 1) kinds (ch :: rest)) (kind : TokenKind) :
    ∃ l', l.fetchClose kind = .ok l' ∧ l'.At size depth (kind :: kinds) rest := by
  obtain ⟨keys, hdrop, hkeys⟩ := h.drops
  have hat := ((h.withKeys hkeys).indicator kind false).withDepth (l.depth - 1)
  have hdepth : l.depth - 1 = depth := by rw [h.depth, Nat.add_sub_cancel]
  rw [Lexer.fetchClose, hdrop]
  exact ⟨_, rfl, hdepth ▸ hat⟩

theorem At.fetchFlowEntry (h : l.At size depth kinds (ch :: rest)) :
    ∃ l', l.fetchFlowEntry = .ok l' ∧ l'.At size depth (.flowEntry :: kinds) rest ∧ l'.allowKey = true := by
  obtain ⟨keys, hdrop, hkeys⟩ := h.drops
  rw [Lexer.fetchFlowEntry, hdrop]
  exact ⟨_, rfl, (h.withKeys hkeys).indicator .flowEntry true, rfl⟩

theorem At.fetchPlain {word : List Char} {stop : Char} (hdepth : depth ≠ 0) (hword : IsWord word)
    (hstop : endsFlowScalar stop = true) (h : l.At size depth kinds (word ++ stop :: rest)) :
    ∃ l', l.fetchPlain = .ok l' ∧ l'.At size depth (.scalar (String.ofList word) true :: kinds) (stop :: rest) := by
  obtain ⟨keys, hsave, hkeys⟩ := h.saves
  have hflow : l.inFlow = true := by
    rw [inFlow, h.depth, bne_iff_ne]
    exact hdepth
  have hscan : scanPlain true (l.indent + 1) l.cursor = _ := scanPlain_word hword.ne_nil hword.letters hstop h.rest
  have hat := (h.withKeys hkeys).forward word.length
  rw [List.drop_left] at hat
  rw [Lexer.fetchPlain, hsave]
  simp only [bind, Except.bind, pure, Except.pure, Except.ok.injEq, exists_eq_left', Lexer.inFlow] at hflow ⊢
  rw [hflow, hscan]
  exact ⟨hat.depth, congrArg (_ :: ·) hat.kinds, hat.rest, hat.line, hat.done, hat.indent, hat.indents, hat.optional⟩

theorem At.fetchQuoted {s : String} (hs : IsBasic s.toList) (h : l.At size depth kinds (Json.string s ++ rest)) :
    ∃ l', l.fetchQuoted true = .ok l' ∧ l'.At size depth (.scalar s false :: kinds) rest := by
  obtain ⟨keys, hsave, hkeys⟩ := h.saves
  have hscan := scanQuoted_string hs h.line h.rest
  have hat := (h.withKeys hkeys).forward (Json.string s).length
  rw [List.drop_left] at hat
  rw [Lexer.fetchQuoted, hsave]
  simp only [bind, Except.bind, pure, Except.pure, hscan, String.ofList_toList, Except.ok.injEq, exists_eq_left']
  exact ⟨hat.depth, congrArg (_ :: ·) hat.kinds, hat.rest, hat.line, hat.done, hat.indent, hat.indents, hat.optional⟩

theorem At.insertAt (h : l.At size depth kinds rest) {number : Nat} (hnumber : number + 1 = l.count) (kind : TokenKind)
    (mark : Mark) : (l.insertAt number kind mark).At size depth (kinds.take 1 ++ kind :: kinds.drop 1) rest := by
  have hlater : l.count - number = 1 := by omega
  refine ⟨h.depth, ?_, h.rest, h.line, h.done, h.indent, h.indents, h.optional⟩
  rw [Lexer.insertAt, hlater, ← h.kinds, ← List.map_take, ← List.map_drop]
  exact List.map_append.trans rfl

/-- The latest token may be a key, and the lexer is not too far behind it. -/
def Pending (depth : Nat) (l : Lexer) : Prop :=
  ∃ k, l.keys.lookup depth = some k ∧ k.number + 1 = l.count ∧ k.mark.line = 0 ∧ l.mark.index ≤ k.mark.index + 1024

theorem Pending.fresh (h : l.Pending depth) (hline : l.cursor.OnLine size) : l.fresh.Pending depth := by
  obtain ⟨k, hlookup, hnumber, hzero, hindex⟩ := h
  refine ⟨k, lookup_filter_of hlookup ?_, hnumber, hzero, hindex⟩
  rw [isStale, hzero, mark, hline.line, Bool.not_eq_true', Bool.or_eq_false_iff, decide_eq_false_iff_not]
  exact ⟨rfl, Nat.not_lt.2 hindex⟩

theorem At.fetchQuoted_pending {s : String} (hs : IsBasic s.toList) (hshort : (Json.string s).length ≤ 1024)
    (hallow : l.allowKey = true) (h : l.At size depth kinds (Json.string s ++ rest)) :
    ∃ l', l.fetchQuoted true = .ok l' ∧ l'.At size depth (.scalar s false :: kinds) rest ∧ l'.Pending depth := by
  obtain ⟨l', hstep, hat⟩ := h.fetchQuoted hs
  refine ⟨l', hstep, hat, ⟨l.count, false, l.mark⟩, ?_⟩
  have hscan := scanQuoted_string hs h.line h.rest
  rw [Lexer.fetchQuoted, h.saveKey, if_pos hallow] at hstep
  simp only [bind, Except.bind, pure, Except.pure, hscan, Except.ok.injEq] at hstep
  subst hstep
  refine ⟨?_, rfl, h.line.line, ?_⟩
  · rw [← h.depth]
    exact (List.lookup_append ..).trans (by rw [lookup_filter]; simp)
  · have hbefore := h.line.index
    have hbehind := hat.line.index
    rw [h.rest, List.length_append] at hbefore
    rw [hat.rest] at hbehind
    simp only [mark] at *
    omega

theorem At.fetchValue (hdepth : depth ≠ 0) (h : l.At size depth kinds (':' :: rest)) (hkey : l.Pending depth) :
    ∃ l', l.fetchValue = .ok l' ∧ l'.At size depth (.value :: (kinds.take 1 ++ .key :: kinds.drop 1)) rest := by
  obtain ⟨k, hlookup, hnumber, -⟩ := hkey
  have hkeys : ∀ k ∈ l.keys.filter (·.1 != l.depth), k.2.required = false :=
    fun k hk => h.optional k (List.mem_filter.1 hk).1
  have hflow : (l.depth != 0) = true := by
    rw [h.depth, bne_iff_ne]
    exact hdepth
  have hat := ((h.withKeys hkeys).insertAt hnumber .key k.mark).indicator .value false
  rw [← h.depth] at hlookup
  rw [Lexer.fetchValue, hlookup]
  simp only [Lexer.inFlow, Lexer.insertAt, hflow, if_true, Except.ok.injEq, exists_eq_left']
  exact hat

/-! Runs over tokens -/

variable (blanks : Nat)

theorem At.openSequence (h : l.At size depth kinds (List.replicate blanks ' ' ++ '[' :: rest)) :
    ∃ l', l.Leads l' ∧ l'.At size (depth + 1) (.flowSequenceStart :: kinds) rest := by
  obtain ⟨l', hstep, hat, -⟩ := h.settled.fetchOpen .flowSequenceStart
  rw [← fetchToken_openSequence h.settled.rest] at hstep
  exact ⟨_, h.leads (by decide) hstep hat (Nat.le_refl _), hat.fresh⟩

theorem At.openMapping (h : l.At size depth kinds (List.replicate blanks ' ' ++ '\x7b' :: rest)) :
    ∃ l', l.Leads l' ∧ l'.At size (depth + 1) (.flowMappingStart :: kinds) rest ∧ l'.allowKey = true := by
  obtain ⟨l', hstep, hat, hallow⟩ := h.settled.fetchOpen .flowMappingStart
  rw [← fetchToken_openMapping h.settled.rest] at hstep
  exact ⟨_, h.leads (by decide) hstep hat (Nat.le_refl _), hat.fresh, hallow⟩

theorem At.closeSequence (h : l.At size (depth + 1) kinds (List.replicate blanks ' ' ++ ']' :: rest)) :
    ∃ l', l.Leads l' ∧ l'.At size depth (.flowSequenceEnd :: kinds) rest := by
  obtain ⟨l', hstep, hat⟩ := h.settled.fetchClose .flowSequenceEnd
  rw [← fetchToken_closeSequence h.settled.rest] at hstep
  exact ⟨_, h.leads (by decide) hstep hat (Nat.le_refl _), hat.fresh⟩

theorem At.closeMapping (h : l.At size (depth + 1) kinds (List.replicate blanks ' ' ++ '\x7d' :: rest)) :
    ∃ l', l.Leads l' ∧ l'.At size depth (.flowMappingEnd :: kinds) rest := by
  obtain ⟨l', hstep, hat⟩ := h.settled.fetchClose .flowMappingEnd
  rw [← fetchToken_closeMapping h.settled.rest] at hstep
  exact ⟨_, h.leads (by decide) hstep hat (Nat.le_refl _), hat.fresh⟩

theorem At.comma (h : l.At size depth kinds (List.replicate blanks ' ' ++ ',' :: rest)) :
    ∃ l', l.Leads l' ∧ l'.At size depth (.flowEntry :: kinds) rest ∧ l'.allowKey = true := by
  obtain ⟨l', hstep, hat, hallow⟩ := h.settled.fetchFlowEntry
  rw [← fetchToken_comma h.settled.rest] at hstep
  exact ⟨_, h.leads (by decide) hstep hat (Nat.le_refl _), hat.fresh, hallow⟩

theorem At.word {word : List Char} {stop : Char} (hdepth : depth ≠ 0) (hword : IsWord word)
    (hstop : endsFlowScalar stop = true)
    (h : l.At size depth kinds (List.replicate blanks ' ' ++ (word ++ stop :: rest))) :
    ∃ l', l.Leads l' ∧ l'.At size depth (.scalar (String.ofList word) true :: kinds) (stop :: rest) := by
  obtain ⟨ch, more, hcons⟩ := List.exists_cons_of_ne_nil hword.ne_nil
  have hletter := hword.letters ch (by rw [hcons]; exact List.mem_cons_self)
  have hplain : ch ≠ ' ' ∧ ch ≠ '#' := by
    constructor <;> rintro rfl <;> exact absurd hletter (by decide)
  obtain ⟨l', hstep, hat⟩ := h.settled.fetchPlain hdepth hword hstop
  rw [← fetchToken_word hword h.settled.rest] at hstep
  rw [hcons, List.cons_append] at h
  exact ⟨_, h.leads hplain hstep hat (by simp), hat.fresh⟩

theorem At.quoted {s : String} (hs : IsBasic s.toList)
    (h : l.At size depth kinds (List.replicate blanks ' ' ++ (Json.string s ++ rest))) :
    ∃ l', l.Leads l' ∧ l'.At size depth (.scalar s false :: kinds) rest := by
  obtain ⟨l', hstep, hat⟩ := h.settled.fetchQuoted hs
  rw [← fetchToken_quote h.settled.rest] at hstep
  exact ⟨_, h.leads (by decide) hstep hat (by simp; omega), hat.fresh⟩

theorem At.key {key : String} (hdepth : depth ≠ 0) (hkey : IsBasic key.toList)
    (hshort : (Json.string key).length ≤ 1024) (hallow : l.allowKey = true)
    (h : l.At size depth kinds (List.replicate blanks ' ' ++ (Json.string key ++ ':' :: rest))) :
    ∃ l', l.Leads l' ∧ l'.At size depth (.value :: .scalar key false :: .key :: kinds) rest := by
  have hallowed : (l.settled blanks).allowKey = true := hallow
  obtain ⟨l', hstep, hat, hpending⟩ := h.settled.fetchQuoted_pending hkey hshort hallowed
  rw [← fetchToken_quote h.settled.rest] at hstep
  have hcolon : l'.fresh.At size depth _ (List.replicate 0 ' ' ++ ':' :: rest) := hat.fresh
  have hflow : (l'.fresh.settled 0).inFlow = true := by
    rw [inFlow, hcolon.settled.depth, bne_iff_ne]
    exact hdepth
  obtain ⟨l'', hstep', hat'⟩ :=
    hcolon.settled.fetchValue hdepth ((hpending.fresh hat.line).fresh hat.fresh.line)
  rw [← fetchToken_colon hcolon.settled.rest hflow] at hstep'
  refine ⟨_, (h.leads (by decide) hstep hat (by simp; omega)).trans ?_, hat'.fresh⟩
  exact hcolon.leads (by decide) hstep' hat' (Nat.le_refl _)

/-! The end -/

theorem At.fetch_end (h : l.At size depth kinds []) :
    ∃ l', l.fetch = .ok l' ∧ l'.done = true ∧ l'.tokens.map (·.kind) = .streamEnd :: kinds := by
  have hspace := skipSpace_blanks (l := l) 0 startsToken_nil h.rest
  obtain ⟨keys, hdrop, -⟩ := h.fresh.drops
  have htoken : ∃ l', l.fresh.fetchToken = .ok l' ∧ l'.done = true ∧ l'.tokens.map (·.kind) = .streamEnd :: kinds := by
    rw [fetchToken_end h.fresh.rest, fetchEnd, h.fresh.unwindTo, hdrop]
    exact ⟨_, rfl, rfl, congrArg (_ :: ·) h.kinds⟩
  obtain ⟨l', htoken, hdone, hkinds⟩ := htoken
  refine ⟨l', ?_, hdone, hkinds⟩
  rw [← h.fresh.unwindTo l.fresh.cursor.column] at htoken
  rw [fetch_of_token hspace h.dropStale htoken, if_pos hdone]

theorem At.run_end (h : l.At size depth kinds []) {fuel : Nat} (hfuel : 0 < fuel) :
    ((run fuel l).1.map (·.kind) = (.streamEnd :: kinds).reverse) ∧ (run fuel l).2 = none := by
  obtain ⟨l', hfetch, hdone, hkinds⟩ := h.fetch_end
  rw [run_of_done hfuel h.done hfetch hdone, List.map_reverse, hkinds]
  exact ⟨rfl, rfl⟩

theorem ofText_of_leads {text : List Char} (htext : ∀ ch ∈ text, isPlainAscii ch = true)
    (h : ∀ l : Lexer, l.At text.length 0 [.streamStart] text →
      ∃ l', l.Leads l' ∧ l'.At text.length 0 (kinds.reverse ++ [.streamStart]) []) :
    (Tokens.ofText text).list.map (·.kind) = .streamStart :: (kinds ++ [.streamEnd]) ∧
      (Tokens.ofText text).fault = none := by
  have hstart : At text.length 0 [.streamStart] text (({ cursor := { rest := text } } : Lexer).add .streamStart {} {}) :=
    ⟨rfl, rfl, rfl, ⟨rfl, Nat.zero_add _, htext⟩, rfl, rfl, rfl, fun k hk => absurd hk List.not_mem_nil⟩
  obtain ⟨l', hleads, hat⟩ := h _ hstart
  obtain ⟨fuel, hfuel, hrun⟩ := hleads (text.length + 2) (Nat.lt_add_of_pos_right Nat.two_pos)
  obtain ⟨hlist, hfault⟩ := hat.run_end (Nat.zero_lt_of_lt hfuel)
  rw [Tokens.ofText, hrun]
  refine ⟨hlist.trans ?_, hfault⟩
  simp

end Lexer
end ReleaseMatch.Yaml
