import Mathlib.Tactic.ByContra
import Mathlib.Tactic.WLOG
import ReleaseMatch.Proofs.Reading.Ahead
import ReleaseMatch.Proofs.Reading.Fragment
set_option autoImplicit false

/-!
# Literals where they stand

Wherever layout counts, an escaped literal is read in as many steps as it has characters, each of
which adds one of them. Where layout does not count, the same holds of literals without layout and of
no others: a blank is passed over, and with a number sign the rest of its line.
-/
namespace ReleaseMatch.Pattern

open Literal Text

/-! Steps one by one -/

namespace Reader

variable {r s t : Reader} {c : Char} {rest : List Char} {m n : Nat}

def advance (r : Reader) : Option Reader :=
  (next r.isVerbose r.rest).bind fun found => (r.readChar found.1 found.2).toOption

def after : Nat → Reader → Option Reader
  | 0, r => some r
  | n + 1, r => r.advance.bind (after n)

theorem advance_of_readChar (hn : next r.isVerbose r.rest = some (c, rest))
    (hc : r.readChar c rest = .ok s) : r.advance = some s := by
  rw [advance, hn, Option.bind_some, hc]
  rfl

theorem length_advance_skipped (h : r.advance = some s) :
    s.rest.length < (dropSkipped r.isVerbose r.rest).length := by
  obtain ⟨⟨c, rest⟩, hn, hc⟩ := Option.bind_eq_some_iff.1 h
  have hlength := length_readChar (toOption_eq_some.1 hc)
  rw [next] at hn
  split at hn
  · cases hn
  · next hcons =>
    obtain ⟨rfl, rfl⟩ := Prod.mk.inj (Option.some.inj hn)
    rw [hcons, List.length_cons]
    exact Nat.lt_succ_of_le hlength

theorem length_advance (h : r.advance = some s) : s.rest.length < r.rest.length :=
  Nat.lt_of_lt_of_le (length_advance_skipped h) (dropSkipped_suffix r.isVerbose r.rest).length_le

theorem after_succ (h : r.advance = some s) : r.after (n + 1) = s.after n := by
  rw [after, h, Option.bind_some]

theorem after_add (m n : Nat) (r : Reader) : r.after (m + n) = (r.after m).bind (after n) := by
  induction m generalizing r with
  | zero => rw [Nat.zero_add, after, Option.bind_some]
  | succ m ih =>
    rw [Nat.succ_add, after, after, Option.bind_assoc]
    exact congrArg r.advance.bind (funext ih)

theorem length_after (h : r.after n = some s) : n + s.rest.length ≤ r.rest.length := by
  induction n generalizing r with
  | zero =>
    obtain rfl := Option.some.inj h
    omega
  | succ n ih =>
    obtain ⟨t, ht, h⟩ := Option.bind_eq_some_iff.1 h
    have hlt := length_advance ht
    have hrest := ih h
    omega

/-- Each step uses up characters, so that what is left of the text tells the readers apart. -/
theorem after_unique (hs : r.after m = some s) (ht : r.after n = some t)
    (h : s.rest.length = t.rest.length) : s = t := by
  wlog hle : m ≤ n generalizing m n s t
  · exact (this ht hs h.symm (by omega)).symm
  obtain ⟨k, rfl⟩ := Nat.exists_eq_add_of_le hle
  rw [after_add, hs, Option.bind_some] at ht
  have hlength := length_after ht
  obtain rfl : k = 0 := by omega
  exact Option.some.inj ht

theorem exists_after_of_readAll (h : readAll n r = .ok s) : ∃ m, r.after m = some s := by
  induction n generalizing r with
  | zero => exact ⟨0, congrArg some (Except.ok.inj h)⟩
  | succ n ih =>
    rw [readAll] at h
    cases hn : next r.isVerbose r.rest with
    | none =>
      simp only [hn] at h
      split at h
      · exact ⟨0, congrArg some (Except.ok.inj h)⟩
      · cases h
    | some found =>
      obtain ⟨c, rest⟩ := found
      simp only [hn] at h
      obtain ⟨t, hc, h⟩ := bind_eq_ok.1 h
      obtain ⟨m, hm⟩ := ih h
      exact ⟨m + 1, (after_succ (advance_of_readChar hn hc)).trans hm⟩

theorem Steps.exists_after (h : r.Steps s) : ∃ n, r.after n = some s := by
  obtain ⟨n, -, h⟩ := h
  have hread := h 0
  rw [Nat.zero_add] at hread
  exact exists_after_of_readAll hread

end Reader

/-! Literals and layout -/

/-- Has nothing in it that would be layout where layout does not count. -/
def IsSolid (cs : List Char) : Prop := ∀ c ∈ cs, isBlank c = false ∧ c ≠ '#'

instance (cs : List Char) : Decidable (IsSolid cs) :=
  List.decidableBAll (fun c => isBlank c = false ∧ c ≠ '#') cs

section

variable {c : Char} {rest : List Char}

theorem dropLayout_solid (hc : isBlank c = false ∧ c ≠ '#') :
    dropLayout false (c :: rest) = c :: rest := by
  rw [dropLayout, if_neg (by simp [hc.1]), if_neg hc.2]

theorem dropLayout_escapeChar (hc : isBlank c = false ∧ c ≠ '#') :
    dropLayout false (escapeChar c ++ rest) = escapeChar c ++ rest := by
  rw [escapeChar]
  split
  · exact dropLayout_solid (by decide)
  · exact dropLayout_solid hc

theorem escapeChar_layout (hc : ¬(isBlank c = false ∧ c ≠ '#')) : escapeChar c = [c] := by
  have hspecial : IsSolid ".*+?^$\x7b\x7d()|[]\\".toList := by decide
  rw [escapeChar, if_neg]
  exact fun h => hc (hspecial c (List.contains_iff_mem.1 h))

/-- Layout is passed over, and maybe what follows it up to the end of a line. -/
theorem exists_dropLayout_layout (hc : ¬(isBlank c = false ∧ c ≠ '#')) (rest : List Char) :
    ∃ inComment, dropLayout false (escapeChar c ++ rest) = dropLayout inComment rest := by
  rw [escapeChar_layout hc, List.singleton_append, dropLayout]
  by_cases hblank : isBlank c = true
  · exact ⟨false, by rw [if_pos hblank]⟩
  · have hsharp : c = '#' := by simpa [hblank] using hc
    exact ⟨true, by rw [if_neg hblank, if_pos hsharp]⟩

theorem exists_dropLayout_comment (c : Char) (rest : List Char) :
    ∃ inComment, dropLayout true (escapeChar c ++ rest) = dropLayout inComment rest := by
  rw [escapeChar]
  split <;> exact ⟨c != '\n', rfl⟩

end

namespace Reader

variable {r s : Reader} {cs rest : List Char} {n : Nat}

theorem advance_escapeChar {c : Char} (hr : dropSkipped r.isVerbose r.rest = escapeChar c ++ rest) :
    r.advance = some (r.gain [some (.char c r.flags.caseMode)] rest) := by
  obtain ⟨d, beyond, hbegins, -, hread⟩ := exists_readChar_escapeChar r c rest
  refine advance_of_readChar ?_ hread
  rw [next, hr, hbegins]

theorem dropSkipped_escapeChar {c : Char} (h : r.isVerbose = false ∨ isBlank c = false ∧ c ≠ '#')
    (hr : r.rest = escapeChar c ++ rest) : dropSkipped r.isVerbose r.rest = escapeChar c ++ rest := by
  rw [dropSkipped, hr]
  split
  · next hv => exact dropLayout_escapeChar (h.resolve_left (by simp [hv]))
  · rfl

theorem after_escapeChars (hr : r.rest = escapeChars cs ++ rest) (h : r.isVerbose = false ∨ IsSolid cs) :
    r.after cs.length = some (r.gain (spelled r.flags.caseMode cs) rest) := by
  induction cs generalizing r with
  | nil =>
    obtain rfl : r.rest = rest := hr
    rfl
  | cons c cs ih =>
    rw [escapeChars_cons, List.append_assoc] at hr
    have hfirst := h.imp_right fun hsolid => hsolid c List.mem_cons_self
    have hothers := h.imp_right fun (hsolid : IsSolid (c :: cs)) d hd => hsolid d (List.mem_cons_of_mem c hd)
    have hrest := ih (r := r.gain [some (.char c r.flags.caseMode)] (escapeChars cs ++ rest)) rfl hothers
    rw [gain_gain] at hrest
    exact (after_succ (advance_escapeChar (dropSkipped_escapeChar hfirst hr))).trans hrest

theorem rest_lt_of_length_lt (hv : r.isVerbose = true) (inComment : Bool)
    (hr : dropLayout false r.rest = dropLayout inComment (escapeChars cs ++ rest))
    (hn : cs.length < n) (h : r.after n = some s) : s.rest.length < rest.length := by
  -- The reader stands in front of the literal up to layout, of which a comment may still be open: then
  -- the next character belongs to it, and the reader stays where it is.
  induction cs generalizing r n inComment with
  | nil =>
    cases n with
    | zero => exact absurd hn (Nat.lt_irrefl 0)
    | succ n =>
      obtain ⟨t, ht, h⟩ := Option.bind_eq_some_iff.1 h
      have hlt := length_advance_skipped ht
      have hsuffix := (dropLayout_suffix inComment rest).length_le
      have hskipped : dropSkipped r.isVerbose r.rest = dropLayout inComment rest := by
        rw [hv, dropSkipped, if_pos rfl, hr, escapeChars_nil, List.nil_append]
      have hrest := length_after h
      rw [hskipped] at hlt
      omega
  | cons c cs ih =>
    rw [List.length_cons] at hn
    rw [escapeChars_cons, List.append_assoc] at hr
    cases inComment with
    | true =>
      obtain ⟨inComment, hcomment⟩ := exists_dropLayout_comment c (escapeChars cs ++ rest)
      exact ih hv inComment (hr.trans hcomment) (by omega) h
    | false =>
      by_cases hc : isBlank c = false ∧ c ≠ '#'
      · obtain ⟨k, rfl⟩ : ∃ k, n = k + 1 := ⟨n - 1, by omega⟩
        rw [dropLayout_escapeChar hc] at hr
        have hskipped : dropSkipped r.isVerbose r.rest = escapeChar c ++ (escapeChars cs ++ rest) := by
          rw [hv, dropSkipped, if_pos rfl, hr]
        rw [after_succ (advance_escapeChar hskipped)] at h
        exact ih (r := r.gain [some (.char c r.flags.caseMode)] (escapeChars cs ++ rest)) hv false rfl
          (by omega) h
      · obtain ⟨inComment, hlayout⟩ := exists_dropLayout_layout hc (escapeChars cs ++ rest)
        exact ih hv inComment (hr.trans hlayout) (by omega) h

theorem rest_lt_of_not_isSolid (hv : r.isVerbose = true) (hr : r.rest = escapeChars cs ++ rest)
    (hcs : ¬IsSolid cs) (h : r.after cs.length = some s) : s.rest.length < rest.length := by
  induction cs generalizing r with
  | nil => exact absurd (by simp [IsSolid]) hcs
  | cons c cs ih =>
    rw [escapeChars_cons, List.append_assoc] at hr
    by_cases hc : isBlank c = false ∧ c ≠ '#'
    · rw [List.length_cons, after_succ (advance_escapeChar (dropSkipped_escapeChar (.inr hc) hr))] at h
      exact ih (r := r.gain [some (.char c r.flags.caseMode)] (escapeChars cs ++ rest)) hv rfl
        (fun hsolid => hcs (List.forall_mem_cons.2 ⟨hc, hsolid⟩)) h
    · obtain ⟨inComment, hlayout⟩ := exists_dropLayout_layout hc (escapeChars cs ++ rest)
      exact rest_lt_of_length_lt hv inComment ((congrArg _ hr).trans hlayout) (Nat.lt_succ_self _) h

/-- An escaped literal becomes its characters exactly where layout counts or it has none. -/
theorem after_escapeChars_iff (hr : r.rest = escapeChars cs ++ rest) :
    r.after cs.length = some (r.gain (spelled r.flags.caseMode cs) rest) ↔
      r.isVerbose = false ∨ IsSolid cs := by
  refine ⟨fun h => ?_, after_escapeChars hr⟩
  by_contra hnot
  rw [not_or, Bool.not_eq_false] at hnot
  exact Nat.lt_irrefl _ (rest_lt_of_not_isSolid hnot.1 hr hnot.2 h)

end Reader

/-! Places in a pattern -/

/-- Reading the two texts gets to the second one with this reader. -/
def Arrives (pre more : List Char) (r : Reader) : Prop :=
  (∃ n, Reader.after n { rest := pre ++ more } = some r) ∧ r.rest = more

theorem Arrives.unique {pre more : List Char} {r s : Reader} (hr : Arrives pre more r)
    (hs : Arrives pre more s) : r = s := by
  obtain ⟨⟨m, hm⟩, hrest⟩ := hr
  obtain ⟨⟨n, hn⟩, hrest'⟩ := hs
  exact Reader.after_unique hm hn (by rw [hrest, hrest'])

/-- The literal is read as itself between these texts: reading gets to it, and from there to what
stands behind it in as many steps as it has characters, which it adds and nothing else. -/
def Verbatim (pre literal post : List Char) : Prop :=
  ∃ r, Arrives pre (escapeChars literal ++ post) r ∧
    r.after literal.length = some (r.gain (spelled r.flags.caseMode literal) post)

section

variable {pre literal post : List Char} {r : Reader}

theorem Arrives.verbatim_iff (h : Arrives pre (escapeChars literal ++ post) r) :
    Verbatim pre literal post ↔ r.isVerbose = false ∨ IsSolid literal := by
  rw [← Reader.after_escapeChars_iff h.2]
  refine ⟨?_, fun hread => ⟨r, h, hread⟩⟩
  rintro ⟨s, hs, hread⟩
  rwa [h.unique hs]

theorem verbatim_iff : Verbatim pre literal post ↔
    ∃ r, Arrives pre (escapeChars literal ++ post) r ∧ (r.isVerbose = false ∨ IsSolid literal) :=
  exists_congr fun _ => and_congr_right fun h => Reader.after_escapeChars_iff h.2

end

/-! On the way to a place -/

theorem Reader.exists_readChar_star {r : Reader} {rest : List Char} {n : Node} {items : List (Option Node)}
    (hv : r.isVerbose = false) (hitems : r.level.items = some n :: items) (hrest : IsPlainEnd rest) :
    ∃ level, r.readChar '*' rest = .ok { r with rest, level } := by
  rw [readChar, quantify, hitems]
  simp only [hv, readGreed_plain hrest]
  exact ⟨_, rfl⟩

/-- A text that is read up to its end wherever layout counts, and behind which layout still counts. -/
structure ReadsOn (word : List Char) : Prop where
  steps : ∀ (r : Reader) (rest : List Char), r.isVerbose = false → r.rest = word ++ rest →
    IsPlainEnd rest → ∃ s, r.PlainSteps s ∧ s.isVerbose = false ∧ s.rest = rest
  plain : ∀ rest, IsPlainEnd rest → IsPlainEnd (word ++ rest)

namespace ReadsOn

variable {word other : List Char}

theorem nil : ReadsOn [] where
  steps r _ hv hr _ := ⟨r, .refl, hv, hr⟩
  plain _ h := h

theorem append (h : ReadsOn word) (h' : ReadsOn other) : ReadsOn (word ++ other) where
  steps r rest hv hr hrest := by
    obtain ⟨s, hsteps, hsv, hs⟩ :=
      h.steps r (other ++ rest) hv (by rw [hr, List.append_assoc]) (h'.plain rest hrest)
    obtain ⟨t, hsteps', htv, ht⟩ := h'.steps s rest hsv hs hrest
    exact ⟨t, hsteps.trans hsteps', htv, ht⟩
  plain rest hrest := by
    rw [List.append_assoc]
    exact h.plain _ (h'.plain rest hrest)

theorem literal (cs : List Char) : ReadsOn (escapeChars cs) where
  steps _ _ hv hr _ := ⟨_, Reader.steps_spelled hv cs hr, hv, rfl⟩
  plain _ h := isPlainEnd_escapeChars h

theorem caret : ReadsOn ['^'] where
  steps _ _ hv hr _ := ⟨_, .of_cons hv hr rfl (Nat.le_refl _) rfl, hv, rfl⟩
  plain _ _ := isPlainEnd_cons (by decide)

theorem dollar : ReadsOn ['$'] where
  steps _ _ hv hr _ := ⟨_, .of_cons hv hr rfl (Nat.le_refl _) rfl, hv, rfl⟩
  plain _ _ := isPlainEnd_cons (by decide)

theorem boundary : ReadsOn ['\\', 'b'] where
  steps _ _ hv hr _ := ⟨_, .of_cons hv hr rfl (Nat.le_succ _) rfl, hv, rfl⟩
  plain _ _ := isPlainEnd_cons (by decide)

theorem anything : ReadsOn ['.', '*'] where
  steps r rest hv hr hrest := by
    have hdot : r.PlainSteps (r.push (Reader.dot r.flags) ('*' :: rest)) :=
      .of_cons hv hr rfl (Nat.le_refl _) rfl
    obtain ⟨level, hstar⟩ := Reader.exists_readChar_star (r := r.push (Reader.dot r.flags) ('*' :: rest))
      hv rfl hrest
    exact ⟨_, hdot.trans (.of_cons hv rfl hstar (Nat.le_refl _) rfl), hv, rfl⟩
  plain _ _ := isPlainEnd_cons (by decide)

theorem ignoreCase : ReadsOn ['(', '?', 'i', ')'] where
  steps r _ hv hr _ := by
    have hflags : (r.flags.change [.ignoreCase] []).isVerbose = false := by
      simpa [Reader.isVerbose, Flags.isVerbose, Flags.change] using hv
    exact ⟨_, Reader.steps_ignoreCase hv hr, hflags, rfl⟩
  plain _ _ := isPlainEnd_cons (by decide)

theorem look (positive : Bool) : ReadsOn ['(', '?', if positive then '=' else '!'] where
  steps _ _ hv hr _ := ⟨_, Reader.steps_look hv hr, hv, rfl⟩
  plain _ _ := isPlainEnd_cons (by decide)

end ReadsOn

theorem exists_arrives_of_readsOn {pre word more : List Char} {s : Reader} (hword : ReadsOn word)
    (hsteps : Reader.Steps { rest := pre ++ (word ++ more) } s) (hs : s.rest = word ++ more)
    (hv : s.isVerbose = false) (hmore : IsPlainEnd more) :
    ∃ r, Arrives (pre ++ word) more r ∧ r.isVerbose = false := by
  obtain ⟨r, hsteps', hrv, hr⟩ := hword.steps s more hv hs hmore
  rw [← List.append_assoc] at hsteps
  exact ⟨r, ⟨(hsteps.trans hsteps'.toSteps).exists_after, hr⟩, hrv⟩

/-! Taking the escape away -/

theorem unescapeChars_escapeChars (cs : List Char) : unescapeChars (escapeChars cs) = cs := by
  induction cs with
  | nil => rfl
  | cons c cs ih =>
    rw [escapeChars_cons, escapeChar]
    by_cases hc : isSpecial c = true
    · rw [if_pos hc]
      exact congrArg (c :: ·) ih
    · have hne : c ≠ '\\' := fun h => hc (h ▸ rfl)
      rw [if_neg hc, List.singleton_append, unescapeChars, ih]
      rintro _ _ rfl
      exact absurd rfl hne

end ReleaseMatch.Pattern
