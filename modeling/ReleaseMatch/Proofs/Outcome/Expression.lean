import ReleaseMatch.Proofs.Outcome.Segments
set_option autoImplicit false

/-!
# Conditions in an anchored expression

An anchored expression has one place for a start, one for an end, any number of places in between and one
flag. It is put together without a look at whether that is enough. Conditions are only given to it where it
is, and then each of their values is in it once.
-/
namespace ReleaseMatch

def Segment.values : Segment → List String
  | .literal value => [value]
  | _ => []

def literalsIn (ps : List Segment) : List String := ps.flatMap Segment.values

theorem literalsIn_append (ps qs : List Segment) : literalsIn (ps ++ qs) = literalsIn ps ++ literalsIn qs :=
  List.flatMap_append

theorem literalsIn_cons (p : Segment) (ps : List Segment) : literalsIn (p :: ps) = p.values ++ literalsIn ps :=
  List.flatMap_cons

def placedSegments (sensitive : Bool) (cs : List Condition) : List Segment :=
  flagSegments sensitive ++ .own "^" :: ((withOperator .startsWith cs).map (fun c => .literal c.value) ++
    ((withOperator .contains cs).flatMap (fun c => [.own ".*", .literal c.value]) ++
      .own ".*" :: ((withOperator .endsWith cs).map (fun c => .literal c.value) ++ [.own "$"])))

theorem literalsIn_flagSegments (sensitive : Bool) : literalsIn (flagSegments sensitive) = [] := by
  cases sensitive <;> rfl

theorem literalsIn_placedSegments (sensitive : Bool) (cs : List Condition) :
    literalsIn (placedSegments sensitive cs) = (arranged cs).map (·.value) := by
  have hedge (es : List Condition) :
      literalsIn (es.map fun c => .literal c.value) = es.map (·.value) := by
    rw [literalsIn, List.flatMap_map, List.map_eq_flatMap]
    rfl
  have hbetween (bs : List Condition) :
      literalsIn (bs.flatMap fun c => [.own ".*", .literal c.value]) = bs.map (·.value) := by
    rw [literalsIn, List.flatMap_assoc, List.map_eq_flatMap]
    rfl
  simp only [placedSegments, literalsIn_append, literalsIn_cons, literalsIn_flagSegments, hedge, hbetween,
    arranged, List.map_append]
  simp [literalsIn, Segment.values]

section

variable {cs : List Condition} {sensitive : Bool}

/-- The last of at most one is all of them. -/
theorem edgeSegments_eq {op : Operator} (h : (withOperator op cs).length ≤ 1) :
    edgeSegments op cs = (withOperator op cs).map fun c => .literal c.value := by
  rw [edgeSegments]
  generalize withOperator op cs = es at h ⊢
  cases es with
  | nil => rfl
  | cons c es =>
    obtain rfl : es = [] := List.eq_nil_of_length_eq_zero (by simpa using h)
    rfl

theorem anchoredSegments_eq (h : Anchorable cs) (hne : cs ≠ [])
    (hcase : ∀ c ∈ cs, c.caseSensitive = .bool sensitive) :
    anchoredSegments cs = placedSegments sensitive cs := by
  have hflag : (cs.head?.any fun c => c.caseSensitive.isSet) = sensitive := by
    cases cs with
    | nil => exact absurd rfl hne
    | cons c cs =>
      rw [List.head?_cons, Option.any_some, hcase c List.mem_cons_self]
      rfl
  rw [anchoredSegments, placedSegments, hflag, edgeSegments_eq h.oneStart, edgeSegments_eq h.oneEnd,
    h.betweenOf_eq]

theorem composeAnchored_ne_composeLookaheads (cs : List Condition) (fragments : List String) :
    composeAnchored cs ≠ composeLookaheads fragments := by
  intro h
  have hlist := congrArg String.toList h
  rw [← textOf_anchoredSegments, anchoredSegments, textOf_append, textOf_cons] at hlist
  -- a circumflex or `(?i)` on the one side, `.*` or `(?=` on the other
  generalize (cs.head?.any fun c => c.caseSensitive.isSet) = sensitive at hlist
  cases sensitive <;> cases fragments
  all_goals simp [flagSegments, textOf, Segment.text, ignoreCaseFlag, composeLookaheads] at hlist

/-- All of the conditions honour case, so that flags which agree are one flag. -/
theorem Anchorable.mixedCase_eq_false_iff (h : Anchorable cs) (hflags : PlainFlags cs) :
    mixedCase cs = .ok false ↔ ∃ sensitive, ∀ c ∈ cs, c.caseSensitive = .bool sensitive := by
  rw [ReleaseMatch.mixedCase_eq_false_iff hflags]
  exact exists_congr fun sensitive => forall₂_congr fun c hc => forall_prop_of_true (h.honoursCase c hc)

theorem Anchorable.exists_edge (h : Anchorable cs)
    (hany : (cs.map (·.operator)).any (·.isPositional) = true) :
    ∃ c ∈ cs, c.operator = .startsWith ∨ c.operator = .endsWith := by
  rw [List.any_map, List.any_eq_true] at hany
  obtain ⟨c, hc, hpositional⟩ := hany
  rcases h.operators c hc with hop | hop | hop
  · exact ⟨c, hc, .inl hop⟩
  · simp [hop, Operator.isPositional] at hpositional
  · exact ⟨c, hc, .inr hop⟩

theorem combineAnd_eq_composeAnchored_iff {fragments : List String} (htwo : 2 ≤ cs.length) :
    combineAnd cs fragments = .ok (.compiled (composeAnchored cs)) ↔
      (∃ c ∈ cs, c.operator = .startsWith ∨ c.operator = .endsWith) ∧ Anchorable cs ∧
        mixedCase cs = .ok false := by
  rw [combineAnd_eq_compiled_iff]
  constructor
  · rintro ⟨hproblems, hmixed, hpattern⟩
    cases hany : (cs.map (·.operator)).any (·.isPositional) with
    | true =>
      have hcs := (positionalProblems_eq_nil_iff_anchorable htwo hany).1 hproblems
      exact ⟨hcs.exists_edge hany, hcs, hmixed⟩
    | false =>
      rw [hany] at hpattern
      exact absurd hpattern.symm (composeAnchored_ne_composeLookaheads cs fragments)
  · rintro ⟨hedge, hcs, hmixed⟩
    have hany := any_isPositional_of_edge hedge
    exact ⟨(positionalProblems_eq_nil_iff_anchorable htwo hany).2 hcs, hmixed, if_pos hany⟩

/-- Two or more conditions become an anchored expression exactly when one of them is a start or an end, no
two of them are starts, no two of them are ends, all others are values in between, and they have one case
flag. Then the expression is put together from the flag, the start, the values in between in their order, and
the end, and it takes in the value of each condition once. -/
theorem combineAnd_anchored_iff {fragments : List String} (htwo : 2 ≤ cs.length) (hflags : PlainFlags cs) :
    combineAnd cs fragments = .ok (.compiled (composeAnchored cs)) ↔
      (∃ c ∈ cs, c.operator = .startsWith ∨ c.operator = .endsWith) ∧ Anchorable cs ∧
      ∃ sensitive, (∀ c ∈ cs, c.caseSensitive = .bool sensitive) ∧
        (composeAnchored cs).toList = textOf (placedSegments sensitive cs) ∧
        literalsIn (placedSegments sensitive cs) = (arranged cs).map (·.value) ∧ (arranged cs).Perm cs := by
  have hne : cs ≠ [] := List.ne_nil_of_length_pos (by omega)
  rw [combineAnd_eq_composeAnchored_iff htwo]
  refine and_congr_right fun _ => and_congr_right fun hcs => ?_
  rw [hcs.mixedCase_eq_false_iff hflags]
  refine exists_congr fun sensitive => ⟨fun hcase => ⟨hcase, ?_, ?_, hcs.arranged_perm⟩, And.left⟩
  · rw [← textOf_anchoredSegments, anchoredSegments_eq hcs hne hcase]
  · exact literalsIn_placedSegments sensitive cs

end

/-- An end, a start and two values, in no order. -/
def scatteredParts : List Condition :=
  [{ id := "1", operator := .endsWith, value := "x264" }, { id := "2", operator := .contains, value := "1080p" },
    { id := "3", operator := .startsWith, value := "The." },
    { id := "4", operator := .contains, value := "HDR10+" }]

theorem scatteredParts_anchored :
    2 ≤ scatteredParts.length ∧ PlainFlags scatteredParts ∧
      combineAnd scatteredParts (scatteredParts.map (·.fragment)) =
        .ok (.compiled "(?i)^The\\..*1080p.*HDR10\\+.*x264$") ∧
      Anchorable scatteredParts ∧
      ∃ sensitive, (∀ c ∈ scatteredParts, c.caseSensitive = .bool sensitive) ∧
        "(?i)^The\\..*1080p.*HDR10\\+.*x264$".toList = textOf (placedSegments sensitive scatteredParts) ∧
        (literalsIn (placedSegments sensitive scatteredParts)).Perm ["x264", "1080p", "The.", "HDR10+"] := by
  have hflags : PlainFlags scatteredParts := by simp [PlainFlags, scatteredParts]
  have hpattern : composeAnchored scatteredParts = "(?i)^The\\..*1080p.*HDR10\\+.*x264$" := by
    decide +kernel
  have hcompile : combineAnd scatteredParts (scatteredParts.map (·.fragment)) =
      .ok (.compiled (composeAnchored scatteredParts)) := by decide +kernel
  obtain ⟨-, hanchorable, sensitive, hcase, htext, hliterals, hperm⟩ :=
    (combineAnd_anchored_iff (by decide) hflags).1 hcompile
  rw [hpattern] at hcompile htext
  refine ⟨by decide, hflags, hcompile, hanchorable, sensitive, hcase, htext, ?_⟩
  rw [hliterals]
  exact hperm.map (·.value)

end ReleaseMatch
