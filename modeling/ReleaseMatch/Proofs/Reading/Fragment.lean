import ReleaseMatch.Condition.Fragment
import ReleaseMatch.Proofs.Engine.Search
import ReleaseMatch.Proofs.Reading.Steps
set_option autoImplicit false

/-!
# Reading fragments

The pieces that fragments are made of, one step or a few for each: escaped literals become the
characters of the literal, whatever they are.
-/
namespace ReleaseMatch.Pattern

open Literal

def Flags.Alike (flags others : Flags) : Prop := ∀ f, flags.contains f = others.contains f

namespace Flags.Alike

variable {flags others : Flags}

theorem of_eq (h : flags = others) : flags.Alike others := fun f => by rw [h]

theorem caseMode_eq (h : flags.Alike others) : flags.caseMode = others.caseMode := by
  simp only [caseMode, h _]

theorem isVerbose_eq (h : flags.Alike others) : flags.isVerbose = others.isVerbose := h _

theorem narrow_eq (h : flags.Alike others) (p : Property) : flags.narrow p = others.narrow p := by
  simp only [narrow, h _]

theorem dot_eq (h : flags.Alike others) : Reader.dot flags = Reader.dot others := by
  simp only [Reader.dot, h _]

theorem caret_eq (h : flags.Alike others) : Reader.caret flags = Reader.caret others := by
  simp only [Reader.caret, h _]

theorem dollar_eq (h : flags.Alike others) : Reader.dollar flags = Reader.dollar others := by
  simp only [Reader.dollar, h _]

end Flags.Alike

def caseFlags (sensitive : Bool) : Flags :=
  if sensitive then .standard else .ignoreCase :: Flags.standard

def caseModeOf (sensitive : Bool) : CaseMode :=
  if sensitive then .exact else .full

@[simp] theorem caseFlags_caseMode (sensitive : Bool) :
    (caseFlags sensitive).caseMode = caseModeOf sensitive := by
  cases sensitive <;> rfl

@[simp] theorem caseFlags_isVerbose (sensitive : Bool) : (caseFlags sensitive).isVerbose = false := by
  cases sensitive <;> rfl

@[simp] theorem caseFlags_dot (sensitive : Bool) :
    Reader.dot (caseFlags sensitive) = .set false notNewline := by
  cases sensitive <;> rfl

theorem alike_ignoreCase {flags : Flags} {sensitive : Bool}
    (h : flags.Alike (caseFlags sensitive)) :
    (flags.change [.ignoreCase] []).Alike (caseFlags false) := by
  intro f
  have hchange : flags.change [.ignoreCase] [] = .ignoreCase :: flags := by simp [Flags.change]
  rw [hchange, List.contains_cons, h f]
  cases sensitive <;> cases f <;> rfl

def spelled (mode : CaseMode) (cs : List Char) : List (Option Node) :=
  cs.map fun c => some (.char c mode)

/-- A quantifier in front of the text would not be changed by it. -/
def IsPlainEnd (rest : List Char) : Prop := ∀ c ∈ rest.head?, c ≠ '?' ∧ c ≠ '+'

theorem isPlainEnd_nil : IsPlainEnd [] := by simp [IsPlainEnd]

theorem isPlainEnd_cons {c : Char} {rest : List Char} (h : c ≠ '?' ∧ c ≠ '+') :
    IsPlainEnd (c :: rest) := by
  simpa [IsPlainEnd] using h

theorem isPlainEnd_escapeChars {cs rest : List Char} (h : IsPlainEnd rest) :
    IsPlainEnd (escapeChars cs ++ rest) := by
  cases cs with
  | nil => exact h
  | cons c cs =>
    rw [escapeChars_cons, escapeChar]
    by_cases hc : isSpecial c = true
    · rw [if_pos hc]
      exact isPlainEnd_cons (by decide)
    · rw [if_neg hc]
      refine isPlainEnd_cons ⟨?_, ?_⟩
      all_goals
        rintro rfl
        exact hc rfl

namespace Reader

variable {r : Reader} {sensitive : Bool} {rest : List Char}

attribute [local simp] readChar

def gain (r : Reader) (items : List (Option Node)) (rest : List Char) : Reader :=
  { r with rest, level := r.level.gain items }

theorem gain_gain (xs ys : List (Option Node)) (rest' : List Char) :
    (r.gain xs rest).gain ys rest' = r.gain (xs ++ ys) rest' := by
  simp [gain, Level.gain_append]

theorem isVerbose_of_flags (hf : r.flags.Alike (caseFlags sensitive)) : r.isVerbose = false := by
  rw [isVerbose, hf.isVerbose_eq, caseFlags_isVerbose]

theorem readChar_special {c : Char} (hc : isSpecial c = true) :
    readEscape r.flags false (c :: rest) = .ok (.code c.toNat, rest) := by
  have hmem : c ∈ ".*+?^$\x7b\x7d()|[]\\".toList := List.contains_iff_mem.1 hc
  simp only [String.reduceToList, List.mem_cons, List.not_mem_nil, or_false] at hmem
  rcases hmem with rfl | rfl | rfl | rfl | rfl | rfl | rfl | rfl | rfl | rfl | rfl | rfl | rfl | rfl
  all_goals rfl

theorem codeNode_toNat (flags : Flags) (c : Char) :
    codeNode flags c.toNat = .char c flags.caseMode := by
  have hvalid : c.toNat < 0xD800 ∨ 0xDFFF < c.toNat ∧ c.toNat < 0x110000 := c.valid
  have hnot : ¬(0xD800 ≤ c.toNat ∧ c.toNat ≤ 0xDFFF) := by omega
  simp [codeNode, hnot]

theorem readChar_plain {c : Char} (hc : isSpecial c = false) :
    r.readChar c rest = .ok (r.push (.char c r.flags.caseMode) rest) := by
  rw [readChar]
  all_goals
    rintro rfl
    exact absurd hc (by decide)

theorem exists_readChar_escapeChar (r : Reader) (c : Char) (rest : List Char) :
    ∃ d beyond, escapeChar c ++ rest = d :: beyond ∧ rest.length ≤ beyond.length ∧
      r.readChar d beyond = .ok (r.gain [some (.char c r.flags.caseMode)] rest) := by
  rw [escapeChar]
  by_cases hc : isSpecial c = true
  · refine ⟨'\\', c :: rest, by rw [if_pos hc]; rfl, Nat.le_succ _, ?_⟩
    simp only [readChar, escape, readChar_special hc, bind, Except.bind, Escape.toNode, codeNode_toNat]
    rfl
  · refine ⟨c, rest, by rw [if_neg hc]; rfl, Nat.le_refl _, ?_⟩
    rw [readChar_plain (by simpa using hc)]
    rfl

theorem steps_spelled (hv : r.isVerbose = false) (cs : List Char) (hr : r.rest = escapeChars cs ++ rest) :
    PlainSteps r (r.gain (spelled r.flags.caseMode cs) rest) := by
  induction cs generalizing r with
  | nil =>
    have hsame : r.gain (spelled r.flags.caseMode []) rest = r := by
      obtain rfl : r.rest = rest := hr
      rfl
    rw [hsame]
    exact .refl
  | cons c cs ih =>
    obtain ⟨d, beyond, hbegins, hlength, hread⟩ := exists_readChar_escapeChar r c (escapeChars cs ++ rest)
    rw [escapeChars_cons, List.append_assoc, hbegins] at hr
    have hnext := PlainSteps.of_cons hv hr hread hlength rfl
    have hrest := ih (r := r.gain [some (.char c r.flags.caseMode)] (escapeChars cs ++ rest)) hv rfl
    rw [gain_gain] at hrest
    exact hnext.trans hrest

theorem steps_literal (hf : r.flags.Alike (caseFlags sensitive)) (cs : List Char)
    (hr : r.rest = escapeChars cs ++ rest) :
    PlainSteps r (r.gain (spelled (caseModeOf sensitive) cs) rest) := by
  have hsteps := steps_spelled (isVerbose_of_flags hf) cs hr
  rwa [hf.caseMode_eq, caseFlags_caseMode] at hsteps

theorem readGreed_plain (h : IsPlainEnd rest) : readGreed false rest = (.greedy, rest) := by
  cases rest with
  | nil => rfl
  | cons c rest =>
    obtain ⟨h1, h2⟩ := h c rfl
    simp [readGreed, next, dropSkipped, h1, h2]

theorem steps_dot (hf : r.flags.Alike (caseFlags sensitive)) (hr : r.rest = '.' :: rest) :
    PlainSteps r (r.gain [some (.set false notNewline)] rest) := by
  refine .of_cons (isVerbose_of_flags hf) hr ?_ (Nat.le_refl _) rfl
  simp only [readChar, hf.dot_eq, caseFlags_dot]
  rfl

theorem steps_anything (hf : r.flags.Alike (caseFlags sensitive)) (hr : r.rest = '.' :: '*' :: rest)
    (hrest : IsPlainEnd rest) : PlainSteps r (r.gain [some Node.anything, none] rest) := by
  refine (steps_dot hf hr).trans ?_
  refine .of_cons (isVerbose_of_flags hf) rfl ?_ (Nat.le_refl _) rfl
  have hv := isVerbose_of_flags hf
  simp only [isVerbose] at hv
  simp [quantify, gain, Level.gain, isVerbose, hv, readGreed_plain hrest, Node.isEmpty,
    Node.anything]

theorem steps_something (hf : r.flags.Alike (caseFlags sensitive)) (hr : r.rest = '.' :: '+' :: rest)
    (hrest : IsPlainEnd rest) : PlainSteps r (r.gain [some Node.something, none] rest) := by
  refine (steps_dot hf hr).trans ?_
  refine .of_cons (isVerbose_of_flags hf) rfl ?_ (Nat.le_refl _) rfl
  have hv := isVerbose_of_flags hf
  simp only [isVerbose] at hv
  simp [quantify, gain, Level.gain, isVerbose, hv, readGreed_plain hrest, Node.isEmpty,
    Node.something]

theorem steps_boundary (hf : r.flags.Alike (caseFlags sensitive)) (hr : r.rest = '\\' :: 'b' :: rest) :
    PlainSteps r (r.gain [some (.anchor (.boundary .word))] rest) := by
  refine .of_cons (isVerbose_of_flags hf) hr ?_ (Nat.le_succ _) rfl
  have hread : readEscape r.flags false ('b' :: rest) =
      .ok (.node (.anchor (.boundary .word)), rest) := by
    have hword : r.flags.narrow .word = .word := by
      rw [hf.narrow_eq]
      cases sensitive <;> rfl
    rw [← hword]
    rfl
  simp only [readChar, escape, hread, bind, Except.bind]
  rfl

theorem steps_caret (hf : r.flags.Alike (caseFlags sensitive)) (hr : r.rest = '^' :: rest) :
    PlainSteps r (r.gain [some (.anchor .textStart)] rest) := by
  refine .of_cons (isVerbose_of_flags hf) hr ?_ (Nat.le_refl _) rfl
  have hread : caret r.flags = .anchor .textStart := by
    rw [hf.caret_eq]
    cases sensitive <;> rfl
  simp only [readChar, hread]
  rfl

theorem steps_dollar (hf : r.flags.Alike (caseFlags sensitive)) (hr : r.rest = '$' :: rest) :
    PlainSteps r (r.gain [some (.anchor .lastLineEnd)] rest) := by
  refine .of_cons (isVerbose_of_flags hf) hr ?_ (Nat.le_refl _) rfl
  have hread : dollar r.flags = .anchor .lastLineEnd := by
    rw [hf.dollar_eq]
    cases sensitive <;> rfl
  simp only [readChar, hread]
  rfl

theorem steps_ignoreCase (hv : r.isVerbose = false) (hr : r.rest = '(' :: '?' :: 'i' :: ')' :: rest) :
    PlainSteps r { r with rest, flags := r.flags.change [.ignoreCase] [] } := by
  refine .of_cons hv hr ?_ (by simp; omega) rfl
  have hchange : readFlagChange false ('i' :: ')' :: rest) =
      .ok (([.ignoreCase], []), ')' :: rest) := rfl
  have hparen : r.readChar '(' ('?' :: 'i' :: ')' :: rest) = r.flagGroup ('i' :: ')' :: rest) := by
    simp only [readChar, paren, special, next, dropSkipped, hv]
    rfl
  rw [isVerbose] at hv
  rw [hparen, flagGroup, isVerbose, hv, hchange]
  simp [bind, Except.bind, accept, next, dropSkipped, isVerbose, hv, pure, Except.pure,
    Flags.change, Flag.isGlobal]

theorem steps_look {positive : Bool} (hv : r.isVerbose = false)
    (hr : r.rest = '(' :: '?' :: (if positive then '=' else '!') :: rest) :
    PlainSteps r (r.open_ (.look false positive) rest) := by
  refine .of_cons hv hr ?_ (Nat.le_add_right rest.length 2) rfl
  simp only [readChar, paren, special, next, dropSkipped, hv]
  cases positive <;> rfl

theorem steps_close {g : OpenGroup} {groups : List OpenGroup} (hv : r.isVerbose = false)
    (hr : r.rest = ')' :: rest) (hg : r.groups = g :: groups)
    (hrest : (r.close rest g groups).rest = rest)
    (hrefs : (r.close rest g groups).references = r.references) :
    PlainSteps r (r.close rest g groups) := by
  refine .of_cons hv hr ?_ (Nat.le_of_eq (congrArg List.length hrest)) hrefs
  simp only [readChar, closing, hg]

/-- A lookahead is an item of its own, whatever flags its text ends with. -/
theorem steps_ahead {positive : Bool} {word : List Char} {items : List (Option Node)} {flags : Flags}
    (hv : r.isVerbose = false)
    (hr : r.rest = '(' :: '?' :: (if positive then '=' else '!') :: (word ++ ')' :: rest))
    (hflags : flags.isVerbose = false)
    (hword : (r.open_ (.look false positive) (word ++ ')' :: rest)).PlainSteps
      { (r.open_ (.look false positive) (word ++ ')' :: rest)).gain items (')' :: rest) with flags }) :
    r.PlainSteps (r.gain [some (.look false positive (Level.gain {} items).node)] rest) := by
  let whole : Reader :=
    { (r.open_ (.look false positive) (word ++ ')' :: rest)).gain items (')' :: rest) with flags }
  have hclose : whole.PlainSteps
      (whole.close rest ⟨.look false positive, r.flags, r.level, []⟩ r.groups) :=
    steps_close hflags rfl rfl rfl rfl
  exact ((steps_look hv hr).trans hword).trans hclose

end Reader

/-- A text that is read as these items wherever it stands behind flags for its case. -/
structure ReadIn (sensitive : Bool) (word : List Char) (items : List (Option Node)) : Prop where
  steps : ∀ (r : Reader) (rest : List Char), r.flags.Alike (caseFlags sensitive) →
    r.rest = word ++ rest → IsPlainEnd rest → r.PlainSteps (r.gain items rest)
  plain : ∀ rest, IsPlainEnd rest → IsPlainEnd (word ++ rest)

namespace ReadIn

variable {sensitive : Bool} {word more : List Char} {items others : List (Option Node)}

theorem nil : ReadIn sensitive [] [] where
  steps r rest _ hr _ := by
    obtain rfl : r.rest = rest := hr
    exact .refl
  plain _ h := h

theorem append (h : ReadIn sensitive word items) (h' : ReadIn sensitive more others) :
    ReadIn sensitive (word ++ more) (items ++ others) where
  steps r rest hf hr hrest := by
    have hfirst := h.steps r (more ++ rest) hf (by rw [hr, List.append_assoc]) (h'.plain rest hrest)
    have hthen := h'.steps (r.gain items (more ++ rest)) rest hf rfl hrest
    rw [Reader.gain_gain] at hthen
    exact hfirst.trans hthen
  plain rest hrest := by
    rw [List.append_assoc]
    exact h.plain _ (h'.plain rest hrest)

theorem literal (cs : List Char) :
    ReadIn sensitive (escapeChars cs) (spelled (caseModeOf sensitive) cs) where
  steps _ _ hf hr _ := Reader.steps_literal hf cs hr
  plain _ h := isPlainEnd_escapeChars h

theorem anything : ReadIn sensitive ['.', '*'] [some Node.anything, none] where
  steps _ _ hf hr hrest := Reader.steps_anything hf hr hrest
  plain _ _ := isPlainEnd_cons (by decide)

theorem something : ReadIn sensitive ['.', '+'] [some Node.something, none] where
  steps _ _ hf hr hrest := Reader.steps_something hf hr hrest
  plain _ _ := isPlainEnd_cons (by decide)

theorem boundary : ReadIn sensitive ['\\', 'b'] [some (.anchor (.boundary .word))] where
  steps _ _ hf hr _ := Reader.steps_boundary hf hr
  plain _ _ := isPlainEnd_cons (by decide)

theorem caret : ReadIn sensitive ['^'] [some (.anchor .textStart)] where
  steps _ _ hf hr _ := Reader.steps_caret hf hr
  plain _ _ := isPlainEnd_cons (by decide)

theorem dollar : ReadIn sensitive ['$'] [some (.anchor .lastLineEnd)] where
  steps _ _ hf hr _ := Reader.steps_dollar hf hr
  plain _ _ := isPlainEnd_cons (by decide)

end ReadIn

/-- A text that is read as these items wherever it stands outside other flags. -/
structure ReadAs (sensitive : Bool) (word : List Char) (items : List (Option Node)) : Prop where
  steps : ∀ (r : Reader) (rest : List Char), r.flags.Alike (caseFlags true) →
    r.rest = word ++ rest → IsPlainEnd rest →
    ∃ flags : Flags, flags.Alike (caseFlags sensitive) ∧ r.PlainSteps { r.gain items rest with flags }
  plain : ∀ rest, IsPlainEnd rest → IsPlainEnd (word ++ rest)

def flagOf (sensitive : Bool) : String :=
  if sensitive then "" else ignoreCaseFlag

/-- A text behind its flag is read where letters are compared as they are or where they are not, and
then they go on to be compared as both of them say. -/
theorem ReadIn.behind {outer sensitive : Bool} {word : List Char} {items : List (Option Node)}
    (h : ReadIn (outer && sensitive) word items) (r : Reader) (rest : List Char)
    (hf : r.flags.Alike (caseFlags outer)) (hr : r.rest = (flagOf sensitive).toList ++ word ++ rest)
    (hrest : IsPlainEnd rest) :
    ∃ flags : Flags, flags.Alike (caseFlags (outer && sensitive)) ∧
      r.PlainSteps { r.gain items rest with flags } := by
  cases sensitive with
  | true =>
    rw [Bool.and_true] at h ⊢
    exact ⟨r.flags, hf, h.steps r rest hf hr hrest⟩
  | false =>
    rw [Bool.and_false] at h ⊢
    have hflags := alike_ignoreCase hf
    refine ⟨_, hflags, (Reader.steps_ignoreCase (Reader.isVerbose_of_flags hf) hr).trans ?_⟩
    exact h.steps { r with rest := word ++ rest, flags := r.flags.change [.ignoreCase] [] } rest
      hflags rfl hrest

theorem ReadIn.flagged {sensitive : Bool} {word : List Char} {items : List (Option Node)}
    (h : ReadIn sensitive word items) : ReadAs sensitive ((flagOf sensitive).toList ++ word) items where
  steps r rest hf hr hrest := by
    have hbehind : ReadIn (true && sensitive) word items := by rwa [Bool.true_and]
    have hsteps := hbehind.behind r rest hf hr hrest
    rwa [Bool.true_and] at hsteps
  plain rest hrest := by
    cases sensitive with
    | true => exact h.plain rest hrest
    | false => exact isPlainEnd_cons (by decide)

end ReleaseMatch.Pattern
