import ReleaseMatch.Proofs.Conjunction.Operators
import ReleaseMatch.Proofs.Engine.Itself
set_option autoImplicit false

/-!
# Words that stand alone

A condition that asks for a word of its own asks for an edge between a character of a word and another
one at both ends of the value. A value that begins and ends with characters of words has these edges
wherever it stands between spaces. Any other value lacks one of them between spaces, also where it is
the whole text.
-/
namespace ReleaseMatch

open Pattern Text

/-- Begins and ends with a character of a word. -/
def IsWordlike (word : List Char) : Prop :=
  word.head?.any isWord = true ∧ word.getLast?.any isWord = true

instance (word : List Char) : Decidable (IsWordlike word) := inferInstanceAs (Decidable (_ ∧ _))

theorem intercalate_of_mem {word : List Char} {words : List (List Char)} (h : word ∈ words) :
    ∃ before after, [' '].intercalate words = before ++ word ++ after ∧
      before.getLast?.any isWord = false ∧ after.head?.any isWord = false := by
  have hspace : isWord ' ' = false := by decide +kernel
  induction words with
  | nil => exact absurd h (List.not_mem_nil)
  | cons first words ih =>
    rcases List.mem_cons.1 h with rfl | h
    · cases words with
      | nil => exact ⟨[], [], by simp, rfl, rfl⟩
      | cons second words =>
        refine ⟨[], ' ' :: [' '].intercalate (second :: words), ?_, rfl, hspace⟩
        rw [List.intercalate_cons_cons, List.append_assoc, List.nil_append]
        rfl
    · obtain ⟨before, after, hwords, hbefore, hafter⟩ := ih h
      refine ⟨first ++ ' ' :: before, after, ?_, ?_, hafter⟩
      · rw [List.intercalate_cons_of_ne_nil (List.ne_nil_of_mem h), hwords]
        simp
      · cases before with
        | nil => simpa using hspace
        | cons c before => simpa [List.getLast?_append, List.getLast?_cons] using hbefore

theorem boundary_holds {cs : List Char} {i : Nat} :
    Anchor.holds (.of cs i) (.boundary .word) = true ↔ WordEdge (cs.take i) (cs.drop i) := by
  have hplain := @boundary_holds_iff id cs i fun _ _ => rfl
  rwa [List.map_id] at hplain

section

variable {word : List Char} {nodes : List Node} (h : ReadsAlike word nodes)

include h

theorem startsAt_wordBoundary_of_isWordlike (hword : IsWordlike word) {before after : List Char}
    (hbefore : before.getLast?.any isWord = false) (hafter : after.head?.any isWord = false) :
    (Node.ofList (Operator.wordBoundary.templateNodes nodes)).startsAt (before ++ word ++ after)
      before.length = true := by
  obtain ⟨hfirst, hlast⟩ := hword
  have hne : word ≠ [] := by
    rintro rfl
    exact absurd hfirst Bool.false_ne_true
  have hstart : WordEdge before (word ++ after) := by
    rw [List.head?_eq_some_head hne] at hfirst
    rw [WordEdge, hbefore, List.head?_append, List.head?_eq_some_head hne, Option.some_or, hfirst]
    exact Bool.false_ne_true
  have hstop : WordEdge (before ++ word) after := by
    rw [List.getLast?_eq_some_getLast hne] at hlast
    rw [WordEdge, hafter, List.getLast?_append, List.getLast?_eq_some_getLast hne, Option.some_or, hlast]
    exact Bool.false_ne_true.symm
  refine (startsAt_anchor_cons _ _).2 ⟨?_, ?_⟩
  · rwa [boundary_holds, List.append_assoc, List.take_left, List.drop_left]
  · rw [Node.startsAt, Node.run_ofList_append]
    refine h.itself _ _ ?_ ?_
    · rw [List.append_assoc, List.drop_left]
      exact List.prefix_append _ _
    · refine (startsAt_anchor_cons _ []).2 ⟨?_, rfl⟩
      rwa [← List.length_append, boundary_holds, List.take_left, List.drop_left]

/-- By itself a word is found only as a whole, so it must begin and end with a character of a word. -/
theorem isWordlike_of_startsAt_wordBoundary {i : Nat}
    (hstarts : (Node.ofList (Operator.wordBoundary.templateNodes nodes)).startsAt word i = true) :
    IsWordlike word := by
  obtain ⟨hfirst, hstarts⟩ := (startsAt_anchor_cons _ _).1 hstarts
  rw [Node.startsAt, Node.run_ofList_append] at hstarts
  obtain ⟨part, ⟨rest, hrest⟩, hlength, hlast⟩ := h.measured _ _ hstarts
  have hlast := ((startsAt_anchor_cons _ []).1 hlast).1
  rw [boundary_holds, WordEdge] at hfirst hlast
  -- The part has a folding as long as that of the whole word, so nothing stands around it.
  have hword := List.take_append_drop i word
  rw [← hrest] at hword
  rw [← hword, foldedLength_append, foldedLength_append] at hlength
  have hbefore : word.take i = [] := foldedLength_eq_zero.1 (by omega)
  have hafter : word.drop (i + part.length) = [] := by
    rw [← List.drop_drop, ← hrest, List.drop_left]
    exact foldedLength_eq_zero.1 (by omega)
  have hstart : word.drop i = word := by
    have := List.take_append_drop i word
    rwa [hbefore] at this
  have hstop : word.take (i + part.length) = word := by
    have := List.take_append_drop (i + part.length) word
    rwa [hafter, List.append_nil] at this
  rw [hbefore, hstart] at hfirst
  rw [hafter, hstop] at hlast
  exact ⟨Bool.of_not_eq_false (Ne.symm hfirst), Bool.of_not_eq_false hlast⟩

end

/-- A condition that asks for a word of its own finds the value wherever it is one of the words of a text
that are joined by spaces, if the value begins and ends with a character of a word. Any other value is not
found in the text that is this value alone. -/
theorem wordBoundary_finds_standalone {c : Condition} (combinator : Combinator)
    (hop : c.operator = .wordBoundary) (hvalue : blank c.value = false) :
    ∃ pattern t, compile [c] combinator = .ok (.compiled pattern) ∧ Tester.read pattern = .ok t ∧
      (IsWordlike c.value.toList →
        ∀ words : List String, c.value ∈ words → t.accepts (" ".intercalate words) = true) ∧
      (¬IsWordlike c.value.toList → t.accepts c.value = false) := by
  have hmatches : c.operator ≠ .matches := by
    rw [hop]
    decide
  have hfree := (isBare_ofList (c.isBare_nodes c.caseSensitive.isSet)).2
  have hreads := readsAlike_literals (caseModeOf c.caseSensitive.isSet) c.value.toList
  refine ⟨_, _, compile_of_not_blank hvalue combinator, (Condition.standsFor hmatches).tester, ?_, ?_⟩
  · intro hword words hmem
    obtain ⟨before, after, hwords, hbefore, hafter⟩ := intercalate_of_mem (List.mem_map_of_mem hmem)
    rw [accepts_ofNodes_iff_startsAt hfree, String.toList_intercalate, Condition.nodes, hop]
    refine ⟨before.length, ?_, ?_⟩
    · exact hwords ▸ (by simp)
    · exact hwords ▸ startsAt_wordBoundary_of_isWordlike hreads hword hbefore hafter
  · intro hword
    rw [← Bool.not_eq_true, accepts_ofNodes_iff_startsAt hfree, Condition.nodes, hop]
    rintro ⟨i, -, hstarts⟩
    exact hword (isWordlike_of_startsAt_wordBoundary hreads hstarts)

def visionWord : Condition where
  id := "1"
  operator := .wordBoundary
  value := "DV"
  caseSensitive := .bool false

theorem visionWord_found : ∃ pattern t, compile [visionWord] .and = .ok (.compiled pattern) ∧
    Tester.read pattern = .ok t ∧ t.accepts "Dune 2160p DV HDR10+" = true := by
  obtain ⟨pattern, t, hcompile, hread, hfound, -⟩ :=
    wordBoundary_finds_standalone (c := visionWord) .and rfl (by decide)
  have hword : IsWordlike visionWord.value.toList := by decide +kernel
  exact ⟨pattern, t, hcompile, hread, hfound hword ["Dune", "2160p", "DV", "HDR10+"] (by decide)⟩

def plusWord : Condition where
  id := "1"
  operator := .wordBoundary
  value := "HDR10+"
  caseSensitive := .bool false

theorem plusWord_not_found : plusWord.value ∈ ["Dune", "2160p", "DV", "HDR10+"] ∧
    blank plusWord.value = false ∧ plusWord.value.toList.any isBlank = false ∧
    compile [plusWord] .and = .ok (.compiled "(?i)\\bHDR10\\+\\b") ∧
    ∃ t, Tester.read "(?i)\\bHDR10\\+\\b" = .ok t ∧
      t.accepts (" ".intercalate ["Dune", "2160p", "DV", "HDR10+"]) = false := by
  refine ⟨by decide, by decide, by decide, ?_, exists_accepts_iff.2 (by decide +kernel)⟩
  have hfragment : plusWord.fragment = "(?i)\\bHDR10\\+\\b" := by decide +kernel
  rw [compile_of_not_blank (by decide), hfragment]

end ReleaseMatch
