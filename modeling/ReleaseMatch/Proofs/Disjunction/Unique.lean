import ReleaseMatch.Condition.Compile
import ReleaseMatch.Proofs.Outcome.Meaning
set_option autoImplicit false

/-!
# Reading a disjunction back

The pattern of a disjunction tells what its conditions ask. Read from left to right, a backslash belongs
to the character behind it, and then no fragment has a bar of its own: the bars are where the conditions
are joined. Within a fragment the characters of the value are told from those of the template: a value is
escaped, so a character with a meaning of its own has a backslash in it, and no other character does. What
is left when the characters that could be of a value are taken out tells the operator and the flag.
-/
namespace ReleaseMatch

open Literal

/-- A character of a pattern, with whether a backslash belongs to it. -/
structure Piece where
  escaped : Bool
  char : Char
  deriving DecidableEq, Repr

namespace Piece

/-- How a character of a value is written. -/
def letter (c : Char) : Piece := ⟨isSpecial c, c⟩

/-- Could be written for a character of a value. -/
def isLetter (p : Piece) : Bool := p.escaped == isSpecial p.char

def bar : Piece := ⟨false, '|'⟩

theorem isLetter_letter (c : Char) : (letter c).isLetter = true := beq_self_eq_true _

end Piece

def piecesOf : List Char → List Piece
  | '\\' :: c :: rest => ⟨true, c⟩ :: piecesOf rest
  | c :: rest => ⟨false, c⟩ :: piecesOf rest
  | [] => []

theorem piecesOf_cons {c : Char} (h : c ≠ '\\') (rest : List Char) :
    piecesOf (c :: rest) = ⟨false, c⟩ :: piecesOf rest := by
  rw [piecesOf]
  exact fun _ _ hc _ => h hc

/-- A value is read piece by piece, whatever comes behind it. -/
theorem piecesOf_escapeChars (cs rest : List Char) :
    piecesOf (escapeChars cs ++ rest) = cs.map .letter ++ piecesOf rest := by
  induction cs with
  | nil => rfl
  | cons c cs ih =>
    rw [escapeChars_cons, List.append_assoc, List.map_cons, List.cons_append, ← ih, escapeChar,
      Piece.letter]
    cases hspecial : isSpecial c with
    | true => rfl
    | false =>
      refine piecesOf_cons ?_ _
      rintro rfl
      exact absurd hspecial (by decide)

namespace Operator

def front (op : Operator) (sensitive : Bool) : List Char :=
  let opening :=
    match op with
    | .contains | .matches | .endsWith => []
    | .notContains => ['^', '(', '?', '!', '.', '*']
    | .startsWith | .equals => ['^']
    | .wordBoundary => ['\\', 'b']
    | .isEmpty => ['^', '$']
    | .isNotEmpty => ['.', '+']
  if op.honoursCase && !sensitive then ['(', '?', 'i', ')'] ++ opening else opening

def back : Operator → List Char
  | .notContains => [')', '.', '*', '$']
  | .endsWith | .equals => ['$']
  | .wordBoundary => ['\\', 'b']
  | _ => []

def asked (op : Operator) (value : String) : List Char :=
  if op.requiresValue then value.toList else []

theorem toList_fragment_eq {op : Operator} (h : op ≠ .matches) (value : String) (sensitive : Bool) :
    (op.fragment value sensitive).toList =
      op.front sensitive ++ (escapeChars (op.asked value) ++ op.back) := by
  cases op with
  | «matches» => exact absurd rfl h
  | _ =>
    cases sensitive <;>
      simp [fragment, fragmentOf, template, front, back, asked, honoursCase, requiresValue,
        ignoreCaseFlag, toList_escape, escapeChars_nil]

theorem piecesOf_front (op : Operator) (sensitive : Bool) (rest : List Char) :
    piecesOf (op.front sensitive ++ rest) = piecesOf (op.front sensitive) ++ piecesOf rest := by
  cases op <;> cases sensitive <;> rfl

theorem piecesOf_back (op : Operator) (rest : List Char) :
    piecesOf (op.back ++ rest) = piecesOf op.back ++ piecesOf rest := by
  cases op <;> rfl

/-- The pieces of a fragment: those of the value, between those of the template. -/
def pieces (op : Operator) (value : String) (sensitive : Bool) : List Piece :=
  piecesOf (op.front sensitive) ++
    ((op.asked value).map .letter ++ piecesOf op.back)

theorem piecesOf_fragment {op : Operator} (h : op ≠ .matches) (value : String) (sensitive : Bool)
    (rest : List Char) : piecesOf ((op.fragment value sensitive).toList ++ rest) =
      op.pieces value sensitive ++ piecesOf rest := by
  rw [toList_fragment_eq h, List.append_assoc, List.append_assoc, piecesOf_front, piecesOf_escapeChars,
    piecesOf_back, pieces, List.append_assoc, List.append_assoc]

theorem bar_not_mem_pieces (op : Operator) (value : String) (sensitive : Bool) :
    Piece.bar ∉ op.pieces value sensitive := by
  have htemplate : ∀ op ∈ all, ∀ sensitive : Bool,
      Piece.bar ∉ piecesOf (op.front sensitive) ++ piecesOf op.back := by
    decide
  have hop := htemplate op (mem_all op) sensitive
  rw [List.mem_append, not_or] at hop
  rw [pieces, List.mem_append, List.mem_append]
  rintro (h | h | h)
  · exact hop.1 h
  · obtain ⟨c, -, hc⟩ := List.mem_map.1 h
    have hbar := Piece.isLetter_letter c
    rw [hc] at hbar
    exact absurd hbar (by decide)
  · exact hop.2 h

end Operator

/-! Telling fragments apart -/

def marks (ps : List Piece) : List Piece := ps.filter fun p => !p.isLetter

def letters (ps : List Piece) : List Char := (ps.filter (·.isLetter)).map (·.char)

theorem marks_append (ps qs : List Piece) : marks (ps ++ qs) = marks ps ++ marks qs :=
  List.filter_append ..

theorem letters_append (ps qs : List Piece) : letters (ps ++ qs) = letters ps ++ letters qs := by
  rw [letters, List.filter_append, List.map_append]
  rfl

theorem marks_letters (cs : List Char) : marks (cs.map .letter) = [] := by
  rw [marks, List.filter_map, List.map_eq_nil_iff, List.filter_eq_nil_iff]
  intro c _
  simp [Piece.isLetter_letter]

theorem letters_letters (cs : List Char) : letters (cs.map .letter) = cs := by
  rw [letters, List.filter_map, List.map_map, List.filter_eq_self.2 ?_]
  · exact List.map_id' cs
  · exact fun c _ => Piece.isLetter_letter c

namespace Operator

/-- What is left of a fragment without the value: this tells the flag, and the operator but for two that
differ in whether they need a value. -/
def outline (op : Operator) (sensitive : Bool) : List Piece :=
  marks (piecesOf (op.front sensitive) ++ piecesOf op.back)

theorem outline_injective : ∀ op ∈ all, ∀ op' ∈ all, ∀ sensitive sensitive' : Bool,
    op ≠ .matches → op' ≠ .matches → op.outline sensitive = op'.outline sensitive' →
      letters (piecesOf (op.front sensitive)) =
          letters (piecesOf (op'.front sensitive')) ∧
        (op.requiresValue = op'.requiresValue →
          op = op' ∧ (op.honoursCase = true → sensitive = sensitive')) := by
  decide

theorem marks_pieces (op : Operator) (value : String) (sensitive : Bool) :
    marks (op.pieces value sensitive) = op.outline sensitive := by
  rw [pieces, outline, marks_append, marks_append, marks_append, marks_letters, List.nil_append]

theorem letters_pieces (op : Operator) (value : String) (sensitive : Bool) :
    letters (op.pieces value sensitive) =
      letters (piecesOf (op.front sensitive)) ++ op.asked value := by
  have hback : letters (piecesOf op.back) = [] := by
    cases op <;> decide
  rw [pieces, letters_append, letters_append, letters_letters, hback, List.append_nil]

end Operator

namespace Condition

def pieces (c : Condition) : List Piece := c.operator.pieces c.value c.caseSensitive.isSet

theorem requiresValue_iff {c : Condition} (h : c.isValid = true) :
    c.operator.requiresValue = true ↔ c.operator.asked c.value ≠ [] := by
  rw [Operator.asked]
  cases hrequires : c.operator.requiresValue with
  | false => simp
  | true =>
    rw [isValid, hrequires, Bool.not_true, Bool.or_false, Bool.not_eq_true'] at h
    refine iff_of_true rfl fun hnil => ?_
    rw [if_pos rfl] at hnil
    rw [Text.blank, hnil] at h
    exact absurd h (by simp)

theorem asksAs_of_pieces {c d : Condition} (hc : c.isValid = true) (hd : d.isValid = true)
    (hcop : c.operator ≠ .matches) (hdop : d.operator ≠ .matches)
    (hcflag : ∃ b, c.caseSensitive = .bool b) (hdflag : ∃ b, d.caseSensitive = .bool b)
    (h : c.pieces = d.pieces) : c.AsksAs d := by
  obtain ⟨b, hb⟩ := hcflag
  obtain ⟨b', hb'⟩ := hdflag
  have houtline := congrArg marks h
  rw [pieces, pieces, Operator.marks_pieces, Operator.marks_pieces] at houtline
  obtain ⟨hfront, hsame⟩ := Operator.outline_injective _ (Operator.mem_all _) _ (Operator.mem_all _) _ _
    hcop hdop houtline
  have hvalue := congrArg letters h
  rw [pieces, pieces, Operator.letters_pieces, Operator.letters_pieces, hfront] at hvalue
  have hasked := List.append_cancel_left hvalue
  have hrequires : c.operator.requiresValue = d.operator.requiresValue := by
    rw [Bool.eq_iff_iff, requiresValue_iff hc, requiresValue_iff hd, hasked]
  obtain ⟨hop, hflag⟩ := hsame hrequires
  refine ⟨hop, fun hempty hnotEmpty => ?_, fun hmatches hempty hnotEmpty => ?_⟩
  · have hneeded : c.operator.requiresValue = true := by
      revert hempty hnotEmpty
      cases c.operator <;> decide
    rw [Operator.asked, Operator.asked, if_pos hneeded, if_pos (hrequires ▸ hneeded)] at hasked
    exact String.toList_inj.1 hasked
  · have hhonours : c.operator.honoursCase = true := by
      revert hmatches hempty hnotEmpty
      cases c.operator <;> decide
    have hset := hflag hhonours
    rw [hb, hb'] at hset ⊢
    exact congrArg Value.bool hset

end Condition

/-! Disjunctions -/

section

variable {cs ds : List Condition}

theorem piecesOf_combineOr (h : ∀ c ∈ cs, c.operator ≠ .matches) :
    piecesOf (combineOr (cs.map (·.fragment))).toList = [Piece.bar].intercalate (cs.map (·.pieces)) := by
  rw [combineOr, String.toList_intercalate, List.map_map]
  induction cs with
  | nil => rfl
  | cons c cs ih =>
    rw [List.forall_mem_cons] at h
    cases cs with
    | nil =>
      have hpieces := Operator.piecesOf_fragment h.1 c.value c.caseSensitive.isSet []
      simpa [piecesOf, Condition.pieces, Condition.fragment] using hpieces
    | cons d cs =>
      rw [List.map_cons, List.map_cons, List.map_cons, List.map_cons, List.intercalate_cons_cons,
        List.intercalate_cons_cons, List.append_assoc, List.append_assoc]
      exact (Operator.piecesOf_fragment h.1 ..).trans
        (congrArg (fun ps => c.pieces ++ Piece.bar :: ps) (ih h.2))

theorem splitOn_piecesOf_combineOr (h : ∀ c ∈ cs, c.operator ≠ .matches) (hne : cs ≠ []) :
    (piecesOf (combineOr (cs.map (·.fragment))).toList).splitOn Piece.bar = cs.map (·.pieces) := by
  rw [piecesOf_combineOr h]
  refine List.splitOn_intercalate _ (List.forall_mem_map.2 fun c _ => ?_) ?_
  · exact Operator.bar_not_mem_pieces _ _ _
  · rwa [ne_eq, List.map_eq_nil_iff]

theorem compile_or_of_ne_nil (h : validOf cs ≠ []) :
    compile cs .or = .ok (.compiled (combineOr ((validOf cs).map (·.fragment)))) := by
  match hvalid : validOf cs with
  | [] => exact absurd hvalid h
  | [c] =>
    rw [compile_of_singleton hvalid]
    simp [combineOr]
  | c :: d :: rest => rw [compile_or (by simp [hvalid]), hvalid]

theorem pieces_eq_of_compile_or (hcs : ∀ c ∈ validOf cs, c.operator ≠ .matches)
    (hds : ∀ d ∈ validOf ds, d.operator ≠ .matches) (h : compile cs .or = compile ds .or) :
    (validOf cs).map (·.pieces) = (validOf ds).map (·.pieces) := by
  by_cases hc : validOf cs = []
  · by_cases hd : validOf ds = []
    · rw [hc, hd]
    · rw [compile_of_nil hc, compile_or_of_ne_nil hd] at h
      exact absurd h (by simp)
  · by_cases hd : validOf ds = []
    · rw [compile_or_of_ne_nil hc, compile_of_nil hd] at h
      exact absurd h (by simp)
    · rw [compile_or_of_ne_nil hc, compile_or_of_ne_nil hd] at h
      rw [← splitOn_piecesOf_combineOr hcs hc, ← splitOn_piecesOf_combineOr hds hd,
        Outcome.compiled.inj (Except.ok.inj h)]

/-- Two disjunctions without patterns among their values are compiled to the same exactly if the valid
conditions ask the same, position by position: by the same operator, of the same value and with the same
flag, where the operator has one. -/
theorem compile_or_eq_iff (hcs : ∀ c ∈ cs, c.operator ≠ .matches) (hds : ∀ d ∈ ds, d.operator ≠ .matches)
    (hcflags : PlainFlags cs) (hdflags : PlainFlags ds) :
    compile cs .or = compile ds .or ↔ AskSame cs ds := by
  refine ⟨fun h => ?_, fun h => compile_congr h .or⟩
  have hvalid {es : List Condition} {e : Condition} (he : e ∈ validOf es) :
      e ∈ es ∧ e.isValid = true :=
    List.mem_filter.1 he
  have hpieces := pieces_eq_of_compile_or (fun c hc => hcs c (hvalid hc).1)
    (fun d hd => hds d (hvalid hd).1) h
  rw [← List.forall₂_eq_eq_eq, List.forall₂_map_left_iff, List.forall₂_map_right_iff] at hpieces
  obtain ⟨hlength, hzip⟩ := List.forall₂_iff_zip.1 hpieces
  refine List.forall₂_iff_zip.2 ⟨hlength, fun {c d} hmem => ?_⟩
  obtain ⟨hc, hd⟩ := List.of_mem_zip hmem
  exact Condition.asksAs_of_pieces (hvalid hc).2 (hvalid hd).2 (hcs c (hvalid hc).1)
    (hds d (hvalid hd).1) (hcflags c (hvalid hc).1) (hdflags d (hvalid hd).1) (hzip hmem)

end

/-- Values that look like a bar, a flag and an anchor, and one that is the end of another. -/
def imitations : List Condition :=
  [{ id := "1", operator := .contains, value := "a|^(?i)", caseSensitive := .bool true },
    { id := "2", operator := .equals, value := "$" },
    { id := "3", operator := .endsWith, value := "\\", caseSensitive := .bool true },
    { id := "4", operator := .isEmpty }]

def imitationsAgain : List Condition :=
  [{ id := "5", operator := .startsWith, value := " " },
    { id := "6", operator := .contains, value := "a|^(?i)", caseSensitive := .bool true },
    { id := "7", operator := .equals, value := "$", field := "size" },
    { id := "8", operator := .endsWith, value := "\\", caseSensitive := .bool true },
    { id := "9", operator := .isEmpty, value := "|", caseSensitive := .bool true }]

theorem imitations_askSame :
    compile imitations .or = .ok (.compiled "a\\|\\^\\(\\?i\\)|(?i)^\\$$|\\\\$|^$") ∧
      AskSame imitations imitationsAgain := by
  have hor : compile imitations .or =
      .ok (.compiled (combineOr ((validOf imitations).map (·.fragment)))) := rfl
  have hpattern : combineOr ((validOf imitations).map (·.fragment)) =
      "a\\|\\^\\(\\?i\\)|(?i)^\\$$|\\\\$|^$" := by
    decide +kernel
  have hagain : combineOr ((validOf imitationsAgain).map (·.fragment)) =
      "a\\|\\^\\(\\?i\\)|(?i)^\\$$|\\\\$|^$" := by
    decide +kernel
  have hflags : PlainFlags imitations ∧ PlainFlags imitationsAgain := by
    simp [PlainFlags, imitations, imitationsAgain]
  rw [hor, hpattern]
  refine ⟨rfl, (compile_or_eq_iff (by decide) (by decide) hflags.1 hflags.2).1 ?_⟩
  rw [hor, hpattern, ← hagain]
  rfl

end ReleaseMatch
