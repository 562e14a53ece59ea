import ReleaseMatch.Yaml.Scalar
set_option autoImplicit false

/-!
# Places in a single line

In a text of printable ASCII a place is told by what is left of the text: going forward changes neither
the line nor the sum of what is behind and what is ahead.
-/
namespace ReleaseMatch.Yaml

def isPlainAscii (c : Char) : Bool := decide (32 ≤ c.toNat) && decide (c.toNat < 127)

theorem isBreak_of_isPlainAscii {c : Char} (h : isPlainAscii c = true) : isBreak c = false := by
  have hne {d : Char} (hd : isPlainAscii d = false) : c ≠ d := by
    rintro rfl
    rw [h] at hd
    cases hd
  simp [isBreak, hne (d := '\n') rfl, hne (d := '\r') rfl, hne (d := '\u0085') rfl,
    hne (d := '\u2028') rfl, hne (d := '\u2029') rfl]

theorem isBlankOrEnd_of_isPlainAscii {c : Char} (h : isPlainAscii c = true) : isBlankOrEnd c = (c == ' ') := by
  have hne {d : Char} (hd : isPlainAscii d = false) : (c == d) = false := by
    rw [beq_eq_false_iff_ne]
    rintro rfl
    rw [h] at hd
    cases hd
  rw [isBlankOrEnd, isSpaceOrEnd, isBreakOrEnd, hne (d := '\t') rfl, hne (d := '\x00') rfl,
    isBreak_of_isPlainAscii h, Bool.false_or, Bool.false_or, Bool.or_false]

namespace Cursor

variable {c : Cursor} {ch : Char} {rest : List Char}

theorem rest_advance (c : Cursor) : c.advance.rest = c.rest.tail := by
  rw [advance]
  split
  · next h => rw [h]; rfl
  · next h => rw [h]; rfl

theorem rest_forward (n : Nat) (c : Cursor) : (forward n c).rest = c.rest.drop n := by
  induction n generalizing c with
  | zero => rfl
  | succ n ih => rw [forward, ih, rest_advance, List.drop_tail]

theorem forward_add (m n : Nat) (c : Cursor) : forward (m + n) c = forward n (forward m c) := by
  induction m generalizing c with
  | zero => rw [Nat.zero_add]; rfl
  | succ m ih => rw [Nat.succ_add, forward, forward, ih]

theorem forward_succ (n : Nat) (c : Cursor) : forward (n + 1) c = forward n c.advance := rfl

theorem advance_eq (c : Cursor) : c.advance = c.forward 1 := rfl

theorem peek_of_rest (h : c.rest = ch :: rest) : c.peek = ch := by
  rw [peek, ahead, h]
  rfl

theorem ahead_of_rest (h : c.rest = ch :: rest) : c.ahead 1 = rest.headD '\x00' := by
  rw [ahead, h]
  cases rest <;> rfl

theorem spanWhile_eq (test : Char → Bool) (c : Cursor) :
    c.spanWhile test = (c.rest.takeWhile test, c.forward (c.rest.takeWhile test).length) := rfl

theorem skipWhile_eq (test : Char → Bool) {fuel : Nat} (c : Cursor) (h : c.rest.length ≤ fuel) :
    c.skipWhile test fuel = c.forward (c.rest.takeWhile test).length := by
  induction fuel generalizing c with
  | zero =>
    rw [List.eq_nil_of_length_eq_zero (Nat.le_zero.1 h)]
    rfl
  | succ fuel ih =>
    rw [skipWhile]
    split
    · next ch rest hrest =>
      rw [hrest, List.takeWhile_cons]
      split
      · rw [ih, rest_advance, hrest, List.length_cons, forward_succ, List.tail_cons]
        rw [rest_advance, hrest]
        rw [hrest] at h
        exact Nat.le_of_succ_le_succ h
      · rfl
    · next hrest =>
      rw [hrest]
      rfl

theorem forward_of_rest (word : List Char) {rest : List Char} (hword : ∀ ch ∈ word, isPlainAscii ch = true) {c : Cursor}
    (h : c.rest = word ++ rest) : c.forward word.length =
      ⟨rest, ⟨c.mark.index + word.length, c.mark.line, c.mark.column + word.length⟩⟩ := by
  induction word generalizing c with
  | nil =>
    obtain ⟨_, mark⟩ := c
    obtain rfl : _ = rest := h
    rfl
  | cons ch word ih =>
    have hch := hword ch List.mem_cons_self
    have hmark : ch ≠ '\uFEFF' := by
      rintro rfl
      cases hch
    have hadvance : c.advance = ⟨word ++ rest, ⟨c.mark.index + 1, c.mark.line, c.mark.column + 1⟩⟩ := by
      rw [advance, h]
      simp only [List.cons_append, Mark.after, isBreak_of_isPlainAscii hch, Bool.false_and, Bool.false_eq_true,
        if_false, if_neg hmark]
    rw [List.length_cons, forward_succ, hadvance, ih (fun d hd => hword d (List.mem_cons_of_mem ch hd)) rfl]
    simp only [Nat.add_assoc, Nat.add_comm 1]

theorem forward_blanks {blanks : Nat} {rest : List Char} {c : Cursor}
    (h : c.rest = List.replicate blanks ' ' ++ rest) :
    c.forward blanks = ⟨rest, ⟨c.mark.index + blanks, c.mark.line, c.mark.column + blanks⟩⟩ := by
  have hforward := forward_of_rest _ (fun ch hch => by rw [List.eq_of_mem_replicate hch]; rfl) h
  rwa [List.length_replicate] at hforward

theorem peek_eq (c : Cursor) : c.peek = c.rest.headD '\x00' := by
  rw [peek, ahead]
  cases c.rest <;> rfl

theorem exists_rest_of_peek (h : c.peek = ch) (hne : ch ≠ '\x00') : ∃ rest, c.rest = ch :: rest := by
  rw [peek_eq] at h
  cases hrest : c.rest with
  | nil =>
    rw [hrest] at h
    exact absurd h.symm hne
  | cons d rest =>
    rw [hrest] at h
    exact ⟨rest, congrArg (· :: rest) h⟩

/-- A place in a text of one line with so many characters. -/
structure OnLine (size : Nat) (c : Cursor) : Prop where
  line : c.mark.line = 0
  index : c.mark.index + c.rest.length = size
  plain : ∀ ch ∈ c.rest, isPlainAscii ch = true

variable {size : Nat}

theorem OnLine.advance (h : c.OnLine size) : c.advance.OnLine size := by
  rw [Cursor.advance]
  split
  · exact h
  · next ch rest hrest =>
    have hch : isPlainAscii ch = true := h.plain ch (by rw [hrest]; exact List.mem_cons_self)
    have hmark : ch ≠ '\uFEFF' := by
      rintro rfl
      cases hch
    have hafter : c.mark.after ch rest = ⟨c.mark.index + 1, c.mark.line, c.mark.column + 1⟩ := by
      rw [Mark.after, isBreak_of_isPlainAscii hch, Bool.false_and, if_neg Bool.false_ne_true, if_neg hmark]
    rw [hafter]
    refine ⟨h.line, ?_, fun d hd => h.plain d ?_⟩
    · rw [← h.index, hrest, List.length_cons]
      simp only
      omega
    · rw [hrest]
      exact List.mem_cons_of_mem _ hd

theorem OnLine.forward (h : c.OnLine size) (n : Nat) : (c.forward n).OnLine size := by
  induction n generalizing c with
  | zero => exact h
  | succ n ih => exact ih h.advance

end Cursor

/-- What a token begins with, or the end of a text: nothing that is passed over. -/
structure StartsToken (cs : List Char) : Prop where
  blank : cs.headD '\x00' ≠ ' '
  comment : cs.headD '\x00' ≠ '#'
  order : cs.headD '\x00' ≠ '\uFEFF'
  line : isBreak (cs.headD '\x00') = false

theorem startsToken_of_isPlainAscii {ch : Char} (hch : isPlainAscii ch = true) (hblank : ch ≠ ' ') (hcomment : ch ≠ '#')
    (rest : List Char) : StartsToken (ch :: rest) := by
  refine ⟨hblank, hcomment, ?_, isBreak_of_isPlainAscii hch⟩
  rintro rfl
  cases hch

theorem startsToken_nil : StartsToken [] := ⟨by decide, by decide, by decide, rfl⟩

end ReleaseMatch.Yaml
