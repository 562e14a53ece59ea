import ReleaseMatch.Proofs.Result
import ReleaseMatch.Proofs.Yaml.Halves
import ReleaseMatch.Yaml.Lexer
set_option autoImplicit false

/-!
# Scanners go forward

A scanner goes on from a place in a text to a later one, so what it sees is a tail of the text. A fault of it
that is about the code of a character is about one that an escape in the text is for, and that no character
has; all other faults are about the markup. The lexer is made of such steps.
-/
namespace ReleaseMatch.Yaml

variable {text : List Char}

/-- A fault that is not about the code of a character. -/
def IsOfMarkup (f : Fault) : Prop := ∀ code, f.problem ≠ .noCharacter code

/-- A fault about the code of a character is about one that an escape in the text is for, and that no
character has. -/
def Cites (text : List Char) (f : Fault) : Prop :=
  ∀ code, f.problem = .noCharacter code →
    (codeLimit ≤ code ∨ isHalf code = true) ∧ ∃ tail, tail <:+ text ∧ escapeCode? tail = some code

def Cursor.In (text : List Char) (c : Cursor) : Prop := c.rest <:+ text

namespace Cursor

variable {c : Cursor}

theorem In.advance (h : c.In text) : c.advance.In text := by
  rw [In, rest_advance]
  exact (List.tail_suffix _).trans h

theorem In.forward (h : c.In text) (n : Nat) : (c.forward n).In text := by
  rw [In, rest_forward]
  exact (List.drop_suffix _ _).trans h

theorem In.skipWhile (h : c.In text) (test : Char → Bool) (fuel : Nat) : (c.skipWhile test fuel).In text := by
  induction fuel generalizing c with
  | zero => exact h
  | succ fuel ih =>
    rw [Cursor.skipWhile]
    split
    · split
      · exact ih h.advance
      · exact h
    · exact h

theorem In.spanWhile (h : c.In text) (test : Char → Bool) : (c.spanWhile test).2.In text := h.forward _

theorem In.skipBlanks (h : c.In text) : c.skipBlanks.In text := h.skipWhile _ _

theorem In.lineBreak (h : c.In text) : c.lineBreak.2.In text := by
  unfold Cursor.lineBreak
  split
  · exact h.advance.advance
  all_goals first | exact h.advance | exact h

theorem In.skipComment (h : c.In text) : c.skipComment.In text := by
  rw [Cursor.skipComment]
  split
  · exact h.skipWhile _ _
  · exact h

end Cursor

variable {c : Cursor} {start : Mark}

/-- A scanner of a text goes on in it, and its faults cite it. -/
def Goes (text : List Char) {α : Type} : Except Fault (α × Cursor) → Prop :=
  Yields (Cites text) fun p => p.2.In text

theorem IsOfMarkup.cites {f : Fault} (h : IsOfMarkup f) : Cites text f := fun code hcode => absurd hcode (h code)

theorem faultIn_yields {α : Type} {R : α → Prop} {context : Context} {problem : Problem} {mark : Mark}
    (h : ∀ code, problem ≠ .noCharacter code) : Yields (Cites text) R (faultIn context start problem mark) :=
  IsOfMarkup.cites h

/-! Scalars -/

theorem plainBreaks_in (fuel : Nat) (h : c.In text) : (plainBreaks fuel c).2.In text := by
  induction fuel generalizing c with
  | zero => exact h
  | succ fuel ih =>
    rw [plainBreaks]
    split
    · exact ih h.advance
    · split
      · dsimp only
        split
        · exact h.lineBreak
        · exact ih h.lineBreak
      · exact h

theorem plainGap_in (h : c.In text) : (plainGap c).place.In text := by
  have hspan := h.spanWhile (· == ' ')
  unfold plainGap
  dsimp only
  generalize c.spanWhile (· == ' ') = p at hspan
  split
  · split
    · exact hspan.lineBreak
    · have hbreaks := plainBreaks_in p.2.lineBreak.2.rest.length hspan.lineBreak
      split
      · next heq => rwa [heq] at hbreaks
      · next heq => rwa [heq] at hbreaks
  · exact hspan

theorem plainWords_in (flow : Bool) (indent : Int) (fuel : Nat) (lead : List Char) (newLine : Bool) (h : c.In text) :
    (plainWords flow indent fuel lead newLine c).place.In text := by
  induction fuel generalizing lead newLine c with
  | zero => exact h
  | succ fuel ih =>
    rw [plainWords]
    dsimp only
    have hgap := plainGap_in (h.forward (plainWord flow c.rest).length)
    split
    · exact h
    · split
      · exact hgap
      · exact ih _ _ hgap

theorem scanPlain_in (flow : Bool) (indent : Int) (h : c.In text) : (scanPlain flow indent c).place.In text :=
  plainWords_in flow indent _ _ _ h

theorem quotedBreaks_goes (fuel : Nat) (h : c.In text) : Goes text (quotedBreaks start fuel c) := by
  induction fuel generalizing c with
  | zero => exact h
  | succ fuel ih =>
    rw [quotedBreaks]
    split
    · exact faultIn_yields (by simp)
    · dsimp only
      have hskip := h.skipWhile (fun ch => ch == ' ' || ch == '\t') c.rest.length
      split
      · exact (ih hskip.lineBreak).bind fun _ hp => hp
      · exact hskip

theorem quotedGap_goes (h : c.In text) : Goes text (quotedGap start c) := by
  have hspan := h.spanWhile fun ch => ch == ' ' || ch == '\t'
  unfold quotedGap
  dsimp only
  generalize c.spanWhile (fun ch => ch == ' ' || ch == '\t') = p at hspan
  split
  · exact faultIn_yields (by simp)
  · split
    · exact (quotedBreaks_goes _ hspan.lineBreak).bind fun _ hp => hp
    · exact hspan

theorem scanEscape_goes {letters : List Char} (h : c.In text) (hrest : c.rest = '\\' :: letters) :
    Goes text (scanEscape start c.advance) := by
  rw [scanEscape]
  dsimp only
  split
  · exact h.advance.advance
  · split
    · next count hcount =>
      split
      · exact faultIn_yields (by simp)
      · next code hcode =>
        have hcites (hnone : codeLimit ≤ code ∨ isHalf code = true) (mark : Mark) :
            Cites text ⟨none, none, .noCharacter code, mark⟩ := by
          rintro code' heq
          obtain rfl := Problem.noCharacter.inj heq
          exact ⟨hnone, c.rest, h, escapeCode?_of_rest hrest hcount hcode⟩
        split
        · next hlimit => exact hcites (.inl hlimit) _
        · split
          · exact (h.advance.advance.forward _).forward _
          · next hnone => exact hcites (.inr (isHalf_of_codeChar? hnone)) _
    · split
      · exact quotedBreaks_goes _ h.advance.lineBreak
      · exact faultIn_yields (by simp)

theorem quotedWord_goes (double : Bool) (fuel : Nat) (h : c.In text) : Goes text (quotedWord double start fuel c) := by
  induction fuel generalizing c with
  | zero => exact h
  | succ fuel ih =>
    have hspan := h.spanWhile (!endsQuotedWord ·)
    rw [quotedWord]
    generalize c.spanWhile (!endsQuotedWord ·) = p at hspan
    obtain ⟨word, c⟩ := p
    dsimp only at hspan ⊢
    have hmore {c : Cursor} (part : List Char) (h : c.In text) : Goes text (do
        let p ← quotedWord double start fuel c
        return (word ++ part ++ p.1, p.2)) :=
      (ih h).bind fun _ hp => hp
    split
    · exact hmore _ hspan.advance.advance
    · split
      · exact hmore _ hspan.advance
      · split
        · next hescape =>
          rw [Bool.and_eq_true, beq_iff_eq] at hescape
          obtain ⟨letters, hrest⟩ := Cursor.exists_rest_of_peek hescape.2 (by decide)
          refine Yields.bind (R := fun o => ∀ p ∈ o, p.2.In text) ((scanEscape_goes hspan hrest).map (by simp)) ?_
          intro o ho
          cases o with
          | none => exact hspan
          | some p => exact hmore p.1 (ho p rfl)
        · exact hspan

theorem quotedRest_goes (double : Bool) (fuel : Nat) (h : c.In text) : Goes text (quotedRest double start fuel c) := by
  induction fuel generalizing c with
  | zero => exact h
  | succ fuel ih =>
    rw [quotedRest]
    by_cases hclose : c.peek = if double then '"' else '\''
    · rw [if_pos hclose]
      exact h
    · rw [if_neg hclose]
      refine (quotedGap_goes h).bind fun gap hgap => ?_
      refine (quotedWord_goes double _ hgap).bind fun word hword => ?_
      exact (ih hword).bind fun _ hp => hp

theorem scanQuoted_goes (double : Bool) (h : c.In text) : Goes text (scanQuoted double c) := by
  rw [scanQuoted]
  refine (quotedWord_goes double _ h.advance).bind fun word hword => ?_
  exact (quotedRest_goes double _ hword).bind fun _ hp => hp.advance

theorem blockIncrement_goes (h : c.In text) : Goes text (blockIncrement start c) := by
  rw [blockIncrement]
  split
  · exact faultIn_yields (by simp)
  · split
    · exact h.advance
    · exact h

theorem blockHeader_goes (h : c.In text) : Goes text (blockHeader start c) := by
  have hnext {header : Except Fault (BlockHeader × Cursor)} (hheader : Goes text header) :
      Goes text (header >>= fun p =>
        if isSpaceOrEnd p.2.peek then return p
        else faultIn blockContext start (.expectedChar "chomping or indentation indicators" p.2.peek) p.2.mark) := by
    refine hheader.bind fun p hp => ?_
    split
    · exact hp
    · exact faultIn_yields (by simp)
  rw [blockHeader]
  split
  · refine (blockIncrement_goes h.advance).bind fun p hp => ?_
    exact hnext (.done hp)
  · refine (blockIncrement_goes h).bind fun p hp => ?_
    dsimp only
    split
    · exact hnext (.done hp.advance)
    · exact hnext (.done hp)

theorem restOfLine_yields (context : Context) (h : c.In text) :
    Yields (Cites text) (·.In text) (restOfLine context start c) := by
  unfold restOfLine
  dsimp only
  split
  · exact h.skipBlanks.skipComment.lineBreak
  · exact faultIn_yields (by simp)

theorem blockIndentation_in (fuel most : Nat) (h : c.In text) : (blockIndentation fuel most c).2.2.In text := by
  induction fuel generalizing most c with
  | zero => exact h
  | succ fuel ih =>
    rw [blockIndentation]
    split
    · exact ih _ h.advance
    · split
      · exact ih _ h.lineBreak
      · exact h

theorem toIndent_in (indent fuel : Nat) (h : c.In text) : (toIndent indent fuel c).In text := by
  induction fuel generalizing c with
  | zero => exact h
  | succ fuel ih =>
    rw [toIndent]
    split
    · exact ih h.advance
    · exact h

theorem blockBreaks_in (indent fuel : Nat) (h : c.In text) : (blockBreaks indent fuel c).2.In text := by
  induction fuel generalizing c with
  | zero => exact h
  | succ fuel ih =>
    rw [blockBreaks]
    dsimp only
    have hindent := toIndent_in indent c.rest.length h
    split
    · exact ih hindent.lineBreak
    · exact hindent

theorem blockLines_in (folded : Bool) (indent : Nat) (chomping : Chomping) (fuel : Nat) (br breaks : List Char)
    (h : c.In text) : (blockLines folded indent chomping fuel br breaks c).2.In text := by
  induction fuel generalizing br breaks c with
  | zero => exact h
  | succ fuel ih =>
    rw [blockLines]
    dsimp only
    split
    · have hbreaks := blockBreaks_in indent (c.spanWhile (!isBreak ·)).2.lineBreak.2.rest.length.succ
        (h.spanWhile (!isBreak ·)).lineBreak
      split
      · exact ih _ _ hbreaks
      · cases chomping <;> exact hbreaks
    · cases chomping <;> exact h

theorem scanBlock_goes (folded : Bool) (least : Nat) (h : c.In text) : Goes text (scanBlock folded least c) := by
  rw [scanBlock]
  refine (blockHeader_goes h.advance).bind fun p hp => ?_
  refine (restOfLine_yields blockContext hp).bind fun c hc => ?_
  refine blockLines_in _ _ _ _ _ _ ?_
  split
  · exact blockBreaks_in _ _ hc
  · exact blockIndentation_in _ _ hc

/-! Names -/

theorem scanAnchor_goes (h : c.In text) : Goes text (scanAnchor c) := by
  unfold scanAnchor
  dsimp only
  have hname := h.advance.spanWhile isWordChar
  split
  · exact faultIn_yields (by simp)
  · exact hname

theorem scanHandle_goes (what : String) (h : c.In text) : Goes text (scanHandle what start c) := by
  unfold scanHandle
  dsimp only
  split
  · exact faultIn_yields (by simp)
  · split
    · exact h.advance
    · split
      · exact (h.advance.spanWhile isWordChar).advance
      · exact faultIn_yields (by simp)

theorem uriBytes_goes (what : String) (fuel : Nat) (h : c.In text) : Goes text (uriBytes what start fuel c) := by
  induction fuel generalizing c with
  | zero => exact h
  | succ fuel ih =>
    rw [uriBytes]
    split
    · exact h
    · dsimp only
      split
      · exact faultIn_yields (by simp)
      · exact (ih (h.advance.forward 2)).bind fun _ hp => hp

theorem uriEscapes_goes (what : String) (h : c.In text) : Goes text (uriEscapes what start c) := by
  rw [uriEscapes]
  refine (uriBytes_goes what _ h).bind fun p hp => ?_
  dsimp only
  split
  · exact hp
  · exact faultIn_yields (by simp)

theorem uriChars_goes (what : String) (fuel : Nat) (h : c.In text) : Goes text (uriChars what start fuel c) := by
  induction fuel generalizing c with
  | zero => exact h
  | succ fuel ih =>
    rw [uriChars]
    split
    · refine (uriEscapes_goes what h).bind fun p hp => ?_
      exact (ih hp).bind fun _ hp => hp
    · split
      · exact (ih h.advance).bind fun _ hp => hp
      · exact h

theorem scanUri_goes (what : String) (h : c.In text) : Goes text (scanUri what start c) := by
  rw [scanUri]
  refine (uriChars_goes what _ h).bind fun p hp => ?_
  dsimp only
  split
  · exact faultIn_yields (by simp)
  · exact hp

theorem scanTag_goes (h : c.In text) : Goes text (scanTag c) := by
  have hnext {tag : Except Fault ((Option String × String) × Cursor)} (htag : Goes text tag) :
      Goes text (tag >>= fun p =>
        if isSpaceOrEnd p.2.peek then return p
        else faultIn (.scanning "a tag") c.mark (.expectedChar "' '" p.2.peek) p.2.mark) := by
    refine htag.bind fun p hp => ?_
    split
    · exact hp
    · exact faultIn_yields (by simp)
  rw [scanTag]
  dsimp only
  split
  · refine (scanUri_goes "tag" (h.forward 2)).bind fun p hp => ?_
    split
    · exact faultIn_yields (by simp)
    · exact hnext (.done hp.advance)
  · split
    · exact hnext (.done h.advance)
    · have hhandled {handle : Except Fault (String × Cursor)} (hhandle : Goes text handle) :
          Goes text (handle >>= fun p => scanUri "tag" c.mark p.2 >>= fun q =>
            pure ((some p.1, q.1), q.2) >>= fun p =>
              if isSpaceOrEnd p.2.peek then return p
              else faultIn (.scanning "a tag") c.mark (.expectedChar "' '" p.2.peek) p.2.mark) := by
        refine hhandle.bind fun p hp => ?_
        exact (scanUri_goes "tag" hp).bind fun p hp => hnext (.done hp)
      split
      · exact hhandled (scanHandle_goes "tag" h)
      · exact hhandled (.done h.advance)

theorem scanVersionNumber_goes (h : c.In text) : Goes text (scanVersionNumber start c) := by
  unfold scanVersionNumber
  dsimp only
  split
  · exact faultIn_yields (by simp)
  · exact h.spanWhile _

theorem scanVersion_goes (h : c.In text) : Goes text (scanVersion start c) := by
  rw [scanVersion]
  refine (scanVersionNumber_goes h.skipBlanks).bind fun p hp => ?_
  dsimp only
  split
  · exact faultIn_yields (by simp)
  · refine (scanVersionNumber_goes hp.advance).bind fun p hp => ?_
    split
    · exact hp
    · exact faultIn_yields (by simp)

theorem scanTagDirective_goes (h : c.In text) : Goes text (scanTagDirective start c) := by
  rw [scanTagDirective]
  refine (scanHandle_goes "directive" h.skipBlanks).bind fun p hp => ?_
  dsimp only
  split
  · exact faultIn_yields (by simp)
  · refine (scanUri_goes "directive" hp.skipBlanks).bind fun p hp => ?_
    split
    · exact hp
    · exact faultIn_yields (by simp)

theorem scanDirective_goes (h : c.In text) : Goes text (scanDirective c) := by
  have hname := h.advance.spanWhile isWordChar
  rw [scanDirective]
  dsimp only
  generalize c.advance.spanWhile isWordChar = p at hname
  split
  · exact faultIn_yields (by simp)
  · have hnext {directive : Except Fault (Directive × Cursor)} (hdirective : Goes text directive) :
        Goes text (directive >>= fun p => restOfLine directiveContext c.mark p.2 >>= fun c' => return (p.1, c')) := by
      refine hdirective.bind fun p hp => ?_
      exact (restOfLine_yields directiveContext hp).bind fun _ hc => hc
    split
    · exact hnext (scanVersion_goes hname)
    · exact hnext (scanTagDirective_goes hname)
    · exact hnext (.done (hname.skipWhile _ _))

/-! Tokens -/

namespace Lexer

variable {l : Lexer}

theorem cursor_unwind (column : Int) (indents : List Int) (l : Lexer) :
    (unwind column indents l).cursor = l.cursor := by
  induction indents generalizing l with
  | nil => rfl
  | cons outer rest ih =>
    rw [unwind]
    split
    · exact ih _
    · rfl

theorem cursor_unwindTo (l : Lexer) (column : Int) : (l.unwindTo column).cursor = l.cursor := cursor_unwind ..

theorem skipSpace_in (fuel : Nat) (h : l.cursor.In text) : (skipSpace fuel l).cursor.In text := by
  induction fuel generalizing l with
  | zero => exact h
  | succ fuel ih =>
    rw [skipSpace]
    split
    · exact ih h.skipBlanks.skipComment.lineBreak
    · exact h.skipBlanks.skipComment

theorem skipByteOrder_in (h : l.cursor.In text) : l.skipByteOrder.cursor.In text := by
  rw [skipByteOrder]
  split
  · exact h.advance
  · exact h

/-- A step of the lexer goes on in the text, and its faults cite it. -/
def Steps (text : List Char) : Except Fault Lexer → Prop := Yields (Cites text) (·.cursor.In text)

theorem Steps.bind {x : Except Fault Lexer} {f : Lexer → Except Fault Lexer} (h : Steps text x)
    (hf : ∀ l, l.cursor.In text → Steps text (f l)) : Steps text (x >>= f) := Yields.bind h hf

theorem Steps.done (h : l.cursor.In text) : Steps text (return l) := h

theorem Steps.cursor (h : Steps text (.ok l)) : l.cursor.In text := h

theorem Steps.cites {f : Fault} (h : Steps text (.error f)) : Cites text f := h

theorem Steps.ite {p : Prop} [Decidable p] {x y : Except Fault Lexer} (hx : Steps text x) (hy : Steps text y) :
    Steps text (if p then x else y) := by
  split
  · exact hx
  · exact hy

theorem noColon_steps (l : Lexer) (k : KeyStart) : Steps text (l.noColon k) := faultIn_yields (by simp)

theorem dropStale_steps (h : l.cursor.In text) : Steps text l.dropStale := by
  rw [dropStale]
  split
  · exact noColon_steps l _
  · exact h

theorem dropKey_steps (h : l.cursor.In text) : Steps text l.dropKey := by
  rw [dropKey]
  split
  · split
    · exact noColon_steps l _
    · exact h
  · exact h

theorem saveKey_steps (h : l.cursor.In text) : Steps text l.saveKey := by
  rw [saveKey]
  split
  · exact (dropKey_steps h).bind fun _ hl => hl
  · exact h

theorem cursor_of_indentTo {column : Nat} {l' : Lexer} (h : l.indentTo column = some l') :
    l'.cursor = l.cursor := by
  unfold indentTo at h
  split at h
  · rw [← Option.some.inj h]
  · exact nomatch h

theorem startBlock_steps (kind : TokenKind) (what : String) (h : l.cursor.In text) :
    Steps text (l.startBlock kind what) := by
  rw [startBlock]
  split
  · exact h
  · split
    · exact IsOfMarkup.cites (by simp [IsOfMarkup])
    · split
      · next heq => exact (congrArg (Cursor.In text) (cursor_of_indentTo heq)).mpr h
      · exact h

theorem unwindTo_in (column : Int) (h : l.cursor.In text) : (l.unwindTo column).cursor.In text := by
  rwa [cursor_unwindTo]

theorem unwound_steps (h : l.cursor.In text) : Steps text (l.unwindTo (-1)).dropKey :=
  dropKey_steps (unwindTo_in (-1) h)

theorem behindKey_steps (kind : TokenKind) (allowKey : Bool) (h : l.cursor.In text) :
    Steps text (l.dropKey >>= fun l => return l.indicator kind 1 allowKey) :=
  (dropKey_steps h).bind fun _ hl => hl.forward 1

theorem fetchEnd_steps (h : l.cursor.In text) : Steps text l.fetchEnd :=
  (unwound_steps h).bind fun _ hl => hl

theorem fetchDirective_steps (h : l.cursor.In text) : Steps text l.fetchDirective :=
  (unwound_steps h).bind fun _ hl => (scanDirective_goes hl).bind fun _ hp => hp

theorem fetchSeparator_steps (kind : TokenKind) (h : l.cursor.In text) : Steps text (l.fetchSeparator kind) :=
  (unwound_steps h).bind fun _ hl => hl.forward 3

theorem fetchOpen_steps (kind : TokenKind) (h : l.cursor.In text) : Steps text (l.fetchOpen kind) :=
  (saveKey_steps h).bind fun _ hl => hl.forward 1

theorem fetchClose_steps (kind : TokenKind) (h : l.cursor.In text) : Steps text (l.fetchClose kind) :=
  (dropKey_steps h).bind fun _ hl => hl.forward 1

theorem fetchBlock_steps (folded : Bool) (h : l.cursor.In text) : Steps text (l.fetchBlock folded) :=
  (dropKey_steps h).bind fun _ hl => (scanBlock_goes folded _ hl).bind fun _ hp => hp

theorem fetchValue_steps (h : l.cursor.In text) : Steps text l.fetchValue := by
  rw [fetchValue]
  split
  · next k _ =>
    refine Cursor.In.forward ?_ 1
    split
    · next heq =>
      split at heq
      · exact nomatch heq
      · have hcursor := cursor_of_indentTo heq
        exact (congrArg (Cursor.In text) hcursor).mpr h
    · exact h
  · exact (startBlock_steps _ _ h).bind fun _ hl => (dropKey_steps hl).bind fun _ hl => hl.forward 1

theorem fetchToken_steps (h : l.cursor.In text) : Steps text l.fetchToken := by
  have hkey := saveKey_steps h
  have hblock (kind : TokenKind) (what : String) := startBlock_steps kind what h
  rw [fetchToken]
  refine .ite (fetchEnd_steps h) ?_
  refine .ite (fetchDirective_steps h) ?_
  refine .ite (fetchSeparator_steps _ h) ?_
  refine .ite (fetchSeparator_steps _ h) ?_
  refine .ite (fetchOpen_steps _ h) ?_
  refine .ite (fetchOpen_steps _ h) ?_
  refine .ite (fetchClose_steps _ h) ?_
  refine .ite (fetchClose_steps _ h) ?_
  refine .ite (behindKey_steps _ _ h) ?_
  refine .ite ((hblock _ _).bind fun _ => behindKey_steps _ _) ?_
  refine .ite ((hblock _ _).bind fun _ hl => (dropKey_steps hl).bind fun _ hl => hl.forward 1) ?_
  refine .ite (fetchValue_steps h) ?_
  refine .ite (hkey.bind fun _ hl => (scanAnchor_goes hl).bind fun _ hp => hp) ?_
  refine .ite (hkey.bind fun _ hl => (scanAnchor_goes hl).bind fun _ hp => hp) ?_
  refine .ite (hkey.bind fun _ hl => (scanTag_goes hl).bind fun _ hp => hp) ?_
  refine .ite (fetchBlock_steps false h) ?_
  refine .ite (fetchBlock_steps true h) ?_
  refine .ite (hkey.bind fun _ hl => (scanQuoted_goes false hl).bind fun _ hp => hp) ?_
  refine .ite (hkey.bind fun _ hl => (scanQuoted_goes true hl).bind fun _ hp => hp) ?_
  refine .ite (hkey.bind fun _ hl => scanPlain_in _ _ hl) ?_
  exact IsOfMarkup.cites (by simp [IsOfMarkup])

-- A step is not looked into here: it would be carried out.
attribute [local irreducible] Steps in
theorem fetch_steps (h : l.cursor.In text) : Steps text l.fetch := by
  rw [fetch]
  refine (dropStale_steps (skipSpace_in _ (skipByteOrder_in h))).bind fun l hl => ?_
  refine (fetchToken_steps (unwindTo_in _ hl)).bind fun l hl => ?_
  exact .ite (.done hl) (dropStale_steps hl)

attribute [local irreducible] Steps in
theorem cites_of_run (fuel : Nat) (h : l.cursor.In text) : ∀ f ∈ (run fuel l).2, Cites text f := by
  induction fuel generalizing l with
  | zero =>
    intro f hf
    exact nomatch hf
  | succ fuel ih =>
    have hfetch := fetch_steps h
    rw [run_eq]
    split
    · intro f hf
      exact nomatch hf
    · generalize l.fetch = r at hfetch
      cases r with
      | ok next => exact ih hfetch.cursor
      | error f =>
        intro g hg
        rw [← Option.some.inj hg]
        exact hfetch.cites

end Lexer

theorem cites_of_ofText (text : List Char) : ∀ f ∈ (Tokens.ofText text).fault, Cites text f := by
  have hin : (({ cursor := { rest := text } } : Lexer).add .streamStart {} {}).cursor.In text := List.suffix_refl text
  have hrun := Lexer.cites_of_run (text.length + 2) hin
  rw [Tokens.ofText]
  generalize Lexer.run (text.length + 2) _ = r at hrun ⊢
  exact hrun

end ReleaseMatch.Yaml
