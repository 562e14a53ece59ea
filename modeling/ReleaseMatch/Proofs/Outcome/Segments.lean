import ReleaseMatch.Proofs.Outcome.Values
import ReleaseMatch.Proofs.Reading.Verbatim
set_option autoImplicit false

/-!
# Segments of patterns

A pattern is put together from texts of its own, escaped values, and the patterns of users, which are
taken over as they are. Each escaped value is read as itself where it stands, unless a pattern of a user
in front of it has something to say about what comes behind: an open comment, a group that the row
cannot tell apart, or, in a disjunction, that layout does not count.
-/
namespace ReleaseMatch

open Pattern Literal

inductive Segment
  | own (text : String)
  | literal (value : String)
  | spliced (pattern : String)
  deriving DecidableEq

namespace Segment

def text : Segment → List Char
  | own text => text.toList
  | literal value => escapeChars value.toList
  | spliced pattern => pattern.toList

def patterns : Segment → List (List Char)
  | spliced pattern => [pattern.toList]
  | _ => []

end Segment

def textOf (ps : List Segment) : List Char := ps.flatMap Segment.text

def splicedIn (ps : List Segment) : List (List Char) := ps.flatMap Segment.patterns

theorem textOf_append (ps qs : List Segment) : textOf (ps ++ qs) = textOf ps ++ textOf qs :=
  List.flatMap_append

theorem textOf_cons (p : Segment) (ps : List Segment) : textOf (p :: ps) = p.text ++ textOf ps :=
  List.flatMap_cons

/-! What is put together -/

def flagSegments (sensitive : Bool) : List Segment :=
  if sensitive then [] else [.own ignoreCaseFlag]

namespace Operator

def opening : Operator → List Segment
  | .notContains => [.own "^", .own "(?!", .own ".*"]
  | .startsWith | .equals => [.own "^"]
  | .wordBoundary => [.own "\\b"]
  | _ => []

def closing : Operator → List Segment
  | .notContains => [.own ")", .own ".*", .own "$"]
  | .endsWith | .equals => [.own "$"]
  | .wordBoundary => [.own "\\b"]
  | _ => []

def middle (op : Operator) (value : String) : Segment :=
  match op with
  | .matches => .spliced value
  | .isEmpty => .own "^$"
  | .isNotEmpty => .own ".+"
  | _ => .literal value

end Operator

namespace Condition

variable (c : Condition)

def opening : List Segment :=
  flagSegments (!c.operator.honoursCase || c.caseSensitive.isSet) ++ c.operator.opening

def segments : List Segment :=
  c.opening ++ c.operator.middle c.value :: c.operator.closing

theorem textOf_segments : textOf c.segments = c.fragment.toList := by
  obtain ⟨id, op, value, flag, field⟩ := c
  rw [segments, opening, fragment, Operator.fragment, Operator.fragmentOf]
  cases op <;> cases flag.isSet <;>
    simp [flagSegments, textOf, Segment.text, Operator.opening, Operator.middle, Operator.closing,
      Operator.template, Operator.honoursCase, toList_escape]

end Condition

def alternativeSegments (cs : List Condition) : List Segment :=
  [Segment.own "|"].intercalate (cs.map Condition.segments)

namespace Combinator

def lead : Combinator → List Segment
  | .and => [.own "(?=", .own ".*"]
  | .or => []

def trail : Combinator → List Segment
  | .and => [.own ")"]
  | .or => [.own "|"]

end Combinator

def rowSegments (combinator : Combinator) (cs : List Condition) : List Segment :=
  cs.flatMap fun c => combinator.lead ++ (c.segments ++ combinator.trail)

def lookaheadSegments (cs : List Condition) : List Segment :=
  rowSegments .and cs ++ [.own ".*"]

def edgeSegments (op : Operator) (cs : List Condition) : List Segment :=
  (withOperator op cs).getLast?.toList.map fun c => .literal c.value

def anchoredSegments (cs : List Condition) : List Segment :=
  flagSegments (cs.head?.any fun c => c.caseSensitive.isSet) ++ .own "^" :: (edgeSegments .startsWith cs ++
    ((betweenOf cs).flatMap (fun c => [.own ".*", .literal c.value]) ++
      .own ".*" :: (edgeSegments .endsWith cs ++ [.own "$"])))

def segmentsOf (cs : List Condition) (combinator : Combinator) : List Segment :=
  match cs, combinator with
  | [c], _ => c.segments
  | cs, .or => alternativeSegments cs
  | cs, .and =>
    if (cs.map (·.operator)).any (·.isPositional) then anchoredSegments cs else lookaheadSegments cs

theorem textOf_intercalate (sep : Segment) (pss : List (List Segment)) :
    textOf ([sep].intercalate pss) = sep.text.intercalate (pss.map textOf) := by
  induction pss with
  | nil => rfl
  | cons ps pss ih =>
    cases pss with
    | nil => simp
    | cons qs pss =>
      rw [List.intercalate_cons_cons, textOf_append, ih, textOf_append]
      simp [textOf, List.intercalate_cons_cons]

theorem textOf_alternativeSegments (cs : List Condition) :
    textOf (alternativeSegments cs) = (combineOr (cs.map (·.fragment))).toList := by
  rw [alternativeSegments, textOf_intercalate, combineOr, String.toList_intercalate, List.map_map, List.map_map]
  congr 1
  exact List.map_congr_left fun c _ => c.textOf_segments

theorem textOf_rowSegments (combinator : Combinator) (cs : List Condition) :
    textOf (rowSegments combinator cs) = (cs.map (·.fragment.toList)).flatMap
      fun word => textOf combinator.lead ++ (word ++ textOf combinator.trail) := by
  rw [List.flatMap_map, textOf, rowSegments, List.flatMap_assoc]
  refine List.flatMap_congr fun c _ => ?_
  rw [← textOf, textOf_append, textOf_append, c.textOf_segments]

theorem textOf_lookaheadSegments (cs : List Condition) :
    textOf (lookaheadSegments cs) = (composeLookaheads (cs.map (·.fragment))).toList := by
  rw [lookaheadSegments, textOf_append, textOf_rowSegments, toList_composeLookaheads, lookaheads_eq, List.map_map]
  rfl

theorem textOf_edgeSegments (op : Operator) (cs : List Condition) :
    textOf (edgeSegments op cs) = ((lastLiteral? op cs).getD "").toList := by
  rw [toList_lastLiteral, edgeSegments, edgeOf]
  cases (withOperator op cs).getLast? with
  | none => rfl
  | some c => simp [textOf, Segment.text]

theorem textOf_anchoredSegments (cs : List Condition) :
    textOf (anchoredSegments cs) = (composeAnchored cs).toList := by
  have hbetween : (String.join ((betweenOf cs).map fun c => ".*" ++ escape c.value)).toList =
      textOf ((betweenOf cs).flatMap fun c => [.own ".*", .literal c.value]) := by
    rw [String.toList_join, List.flatMap_map, textOf, List.flatMap_assoc]
    simp [Segment.text, toList_escape]
  have hflag (sensitive : Bool) : textOf (flagSegments sensitive) = (flagOf sensitive).toList := by
    cases sensitive <;> rfl
  rw [composeAnchored_eq]
  simp only [String.toList_append, hbetween, ← hflag, ← textOf_edgeSegments, anchoredSegments, textOf_append,
    textOf_cons, Segment.text, List.append_assoc]
  rfl

theorem textOf_segmentsOf {cs : List Condition} {combinator : Combinator} {pattern : String}
    (h : compile cs combinator = .ok (.compiled pattern)) :
    textOf (segmentsOf (validOf cs) combinator) = pattern.toList := by
  rcases compile_eq_compiled_cases h with ⟨c, hvalid, rfl⟩ | ⟨htwo, hseveral⟩
  · rw [hvalid]
    cases combinator <;> exact c.textOf_segments
  · have hsingle : ∀ c, validOf cs ≠ [c] := fun c hvalid => absurd htwo (by simp [hvalid])
    rcases hseveral with ⟨rfl, rfl⟩ | ⟨rfl, hand⟩
    · rw [segmentsOf]
      · exact textOf_alternativeSegments _
      · exact hsingle
    · obtain ⟨-, -, rfl⟩ := combineAnd_eq_compiled_iff.1 hand
      rw [segmentsOf]
      · split
        · exact textOf_anchoredSegments _
        · exact textOf_lookaheadSegments _
      · exact hsingle

/-! Where the literals are -/

/-- The texts that can stand in front of a literal in its fragment or its expression. -/
def openers : List String := [ignoreCaseFlag, "^", "(?!", "(?=", ".*", "\\b", "$"]

def Segment.isOwn : Segment → Bool
  | .own _ => true
  | _ => false

def Segment.isOpener : Segment → Bool
  | .own text => openers.contains text
  | _ => false

section

variable {ps lead trail front back : List Segment} {c : Condition} {cs : List Condition} {value : String}
  {combinator : Combinator}

theorem isOwn_of_isOpener {p : Segment} (h : p.isOpener = true) : p.isOwn = true := by
  cases p with
  | own text => rfl
  | literal value => cases h
  | spliced pattern => cases h

theorem isOpener_opening (c : Condition) : ∀ p ∈ c.opening, p.isOpener = true := by
  rw [Condition.opening, List.forall_mem_append, flagSegments]
  refine ⟨?_, ?_⟩
  · split <;> decide
  · cases c.operator <;> decide

theorem isOpener_lead (combinator : Combinator) : ∀ p ∈ combinator.lead, p.isOpener = true := by
  cases combinator <;> decide

theorem isOwn_closing (op : Operator) : ∀ p ∈ op.closing, p.isOwn = true := by
  cases op <;> decide

theorem isOwn_trail (combinator : Combinator) : ∀ p ∈ combinator.trail, p.isOwn = true := by
  cases combinator <;> decide

theorem literal_not_mem (h : ∀ p ∈ ps, p.isOwn = true) : .literal value ∉ ps :=
  fun hmem => Bool.noConfusion (h _ hmem)

theorem splicedIn_append (ps qs : List Segment) : splicedIn (ps ++ qs) = splicedIn ps ++ splicedIn qs :=
  List.flatMap_append

theorem splicedIn_own (h : ∀ p ∈ ps, p.isOwn = true) : splicedIn ps = [] := by
  rw [splicedIn, List.flatMap_eq_nil_iff]
  intro p hp
  cases p with
  | own text => rfl
  | literal value => exact absurd hp (literal_not_mem h)
  | spliced pattern => exact Bool.noConfusion (h _ hp)

theorem splicedIn_openers (h : ∀ p ∈ ps, p.isOpener = true) : splicedIn ps = [] :=
  splicedIn_own fun p hp => isOwn_of_isOpener (h p hp)

theorem splicedIn_segments (c : Condition) : splicedIn c.segments = patternsOf [c] := by
  rw [Condition.segments, splicedIn_append, splicedIn_openers (isOpener_opening c), List.nil_append,
    ← List.singleton_append, splicedIn_append, splicedIn_own (isOwn_closing _), List.append_nil, patternsOf]
  cases hop : c.operator <;> simp [splicedIn, Segment.patterns, Operator.middle, hop]

theorem splicedIn_rowSegments (combinator : Combinator) (cs : List Condition) :
    splicedIn (rowSegments combinator cs) = patternsOf cs := by
  induction cs with
  | nil => rfl
  | cons c cs ih =>
    rw [rowSegments, List.flatMap_cons, ← rowSegments, splicedIn_append, ih, splicedIn_append, splicedIn_append,
      splicedIn_openers (isOpener_lead _), splicedIn_own (isOwn_trail _), splicedIn_segments, List.nil_append,
      List.append_nil]
    simp only [patternsOf, ← List.map_append, ← List.filter_append, List.singleton_append]

theorem exists_of_flatMap_eq {α β : Type} {f : α → List β} {xs : List α} {front back : List β} {a : β}
    (h : xs.flatMap f = front ++ a :: back) :
    ∃ before x after inner beyond, xs = before ++ x :: after ∧ f x = inner ++ a :: beyond ∧
      front = before.flatMap f ++ inner ∧ back = beyond ++ after.flatMap f := by
  induction xs generalizing front with
  | nil => simp at h
  | cons x xs ih =>
    have hlater (front' : List β) (hfront : front = f x ++ front') (h : xs.flatMap f = front' ++ a :: back) :
        ∃ before y after inner beyond, x :: xs = before ++ y :: after ∧ f y = inner ++ a :: beyond ∧
          front = before.flatMap f ++ inner ∧ back = beyond ++ after.flatMap f := by
      obtain ⟨before, y, after, inner, beyond, rfl, hy, rfl, hback⟩ := ih h
      exact ⟨x :: before, y, after, inner, beyond, rfl, hy, by simp [hfront], hback⟩
    rw [List.flatMap_cons, List.append_eq_append_iff] at h
    rcases h with ⟨front', hfront, h⟩ | ⟨rest, hx, h⟩
    · exact hlater front' hfront h
    · cases rest with
      | nil => exact hlater [] (by simpa using hx.symm) (by simpa using h.symm)
      | cons b rest =>
        obtain ⟨rfl, rfl⟩ := List.cons.inj h
        exact ⟨[], x, xs, front, rest, rfl, hx, rfl, rfl⟩

/-- A fragment has no other literal than its value. -/
theorem eq_of_segments_eq (hlead : ∀ p ∈ lead, p.isOpener = true) (htrail : ∀ p ∈ trail, p.isOwn = true)
    (h : lead ++ (c.segments ++ trail) = front ++ .literal value :: back) :
    front = lead ++ c.opening ∧ back = c.operator.closing ++ trail := by
  have hopeners : ∀ p ∈ lead ++ c.opening, p.isOpener = true :=
    List.forall_mem_append.2 ⟨hlead, isOpener_opening c⟩
  have hfront : .literal value ∉ lead ++ c.opening :=
    literal_not_mem fun p hp => isOwn_of_isOpener (hopeners p hp)
  have hback : .literal value ∉ c.operator.closing ++ trail :=
    literal_not_mem (List.forall_mem_append.2 ⟨isOwn_closing _, htrail⟩)
  have hsplit : lead ++ (c.segments ++ trail) =
      (lead ++ c.opening) ++ c.operator.middle c.value :: (c.operator.closing ++ trail) := by
    simp [Condition.segments]
  rw [hsplit, List.append_cons_inj_of_notMem hfront hback] at h
  exact ⟨h.1.symm, h.2.2.symm⟩

theorem exists_of_rowSegments_eq (h : rowSegments combinator cs = front ++ .literal value :: back) :
    ∃ (before : List Condition) (c : Condition) (after : List Condition),
      front = rowSegments combinator before ++ (combinator.lead ++ c.opening) ∧
        back = c.operator.closing ++ combinator.trail ++ rowSegments combinator after ∧
        splicedIn front = patternsOf before := by
  obtain ⟨before, c, after, inner, beyond, -, hinner, rfl, rfl⟩ := exists_of_flatMap_eq h
  obtain ⟨rfl, rfl⟩ := eq_of_segments_eq (isOpener_lead _) (isOwn_trail _) hinner
  refine ⟨before, c, after, rfl, rfl, ?_⟩
  have hopeners := List.forall_mem_append.2 ⟨isOpener_lead combinator, isOpener_opening c⟩
  rw [splicedIn_append, ← rowSegments, splicedIn_rowSegments, splicedIn_openers hopeners, List.append_nil]

end

/-! Coming to a literal -/

theorem readsOn_openers : ∀ text ∈ openers, ReadsOn text.toList := by
  simp only [openers, List.forall_mem_cons]
  exact ⟨.ignoreCase, .caret, .look false, .look true, .anything, .boundary, .dollar, nofun⟩

theorem readsOn_textOf {ps : List Segment} (h : ∀ p ∈ ps, ReadsOn p.text) : ReadsOn (textOf ps) := by
  induction ps with
  | nil => exact .nil
  | cons p ps ih =>
    rw [List.forall_mem_cons] at h
    rw [textOf_cons]
    exact h.1.append (ih h.2)

theorem readsOn_of_isOpener {p : Segment} (h : p.isOpener = true) : ReadsOn p.text := by
  cases p with
  | own text => exact readsOn_openers text (List.contains_iff_mem.1 h)
  | literal value => cases h
  | spliced pattern => cases h

theorem readsOn_of_openers {ps : List Segment} (h : ∀ p ∈ ps, p.isOpener = true) : ReadsOn (textOf ps) :=
  readsOn_textOf fun p hp => readsOn_of_isOpener (h p hp)

theorem isPlainEnd_closing (op : Operator) {rest : List Char} (h : IsPlainEnd rest) :
    IsPlainEnd (textOf op.closing ++ rest) := by
  cases op <;> first | exact h | exact isPlainEnd_cons (by decide)

theorem isPlainEnd_of_append {xs ys : List Char} (h : IsPlainEnd (xs ++ ys)) : IsPlainEnd xs := by
  cases xs with
  | nil => exact isPlainEnd_nil
  | cons x xs => exact h

/-- What patterns of users have to be to leave alone what is put behind them: valid by themselves and at
an end before it, without references to groups or with groups that are told apart by their names, and in
a disjunction not such that layout goes on not to count. -/
structure LeaveAlone (combinator : Combinator) (words : List (List Char)) : Prop where
  valid : ∀ word ∈ words, IsPattern word
  ends : ∀ word ∈ words, EndsBeforeStop word
  groups : (∀ word ∈ words, MentionsNone word) ∨ (words.map endOf).Pairwise Reader.NamesApart
  layout : combinator = .or → ∀ word ∈ words, (endOf word).isVerbose = false

/-- Reading comes to a text where layout counts. -/
def ComesTo (front : List Segment) (more : List Char) : Prop :=
  ∃ r, Arrives (textOf front) more r ∧ r.isVerbose = false

section

variable {cs before : List Condition} {combinator : Combinator} {front back : List Segment} {value : String}
  {more : List Char}

theorem LeaveAlone.fitsIn (h : LeaveAlone combinator (patternsOf before)) :
    ∀ word ∈ before.map (·.fragment.toList),
      FitsIn (((before.map (·.fragment.toList)).map endOf).Pairwise Reader.NamesApart) word ∧
        EndsBeforeStop word ∧ (combinator = .or → (endOf word).isVerbose = false) := by
  have hgroups := h.groups.imp mentionsNone_fragments pairwise_fragments
  intro word hword
  have hmentions := hgroups.symm.imp_right fun hnone => hnone word hword
  obtain ⟨c, hc, rfl⟩ := List.mem_map.1 hword
  refine ⟨⟨?_, hmentions⟩, ?_, fun hor => ?_⟩
  · exact fragment_of (fun _ hplain => hplain.toIsPattern) fun hop => h.valid _ (mem_patternsOf hc hop)
  · exact fragment_of (fun _ hplain => hplain.ends) fun hop => h.ends _ (mem_patternsOf hc hop)
  · exact fragment_of (p := fun word => (endOf word).isVerbose = false) (fun _ hplain => hplain.layout)
      fun hop => h.layout hor _ (mem_patternsOf hc hop)

theorem comesTo_of_readsOn (h : ReadsOn (textOf front)) (hmore : IsPlainEnd more) : ComesTo front more :=
  @exists_arrives_of_readsOn [] _ _ _ h .refl rfl rfl hmore

theorem exists_steps_row (h : LeaveAlone combinator (patternsOf before)) (more : List Char) :
    ∃ s, Reader.Steps { rest := textOf (rowSegments combinator before) ++ more } s ∧ s.rest = more ∧
      s.isVerbose = false := by
  have hfits := h.fitsIn
  rw [textOf_rowSegments]
  -- A parenthesis brings back the flags from before it, but a bar does not.
  cases combinator with
  | or =>
    obtain ⟨s, hsteps, -, hs, hverbose, -⟩ := (hasRead_nil _ _).exists_branches
      (fun word hword => (hfits word hword).imp_right (And.imp_right fun hlayout => hlayout rfl)) rfl rfl rfl
      rfl id
    exact ⟨s, hsteps, hs, hverbose⟩
  | and =>
    obtain ⟨s, hsteps, -, hs, -, hflags⟩ := (hasRead_nil _ _).exists_aheads
      (fun word hword => (hfits word hword).imp_right And.left) rfl rfl id
    refine ⟨s, hsteps, hs, ?_⟩
    rw [Reader.isVerbose, hflags]
    rfl

theorem comesTo_behind_row (c : Condition) (h : LeaveAlone combinator (patternsOf before))
    (hmore : IsPlainEnd more) :
    ComesTo (rowSegments combinator before ++ (combinator.lead ++ c.opening)) more := by
  have hreads : ReadsOn (textOf (combinator.lead ++ c.opening)) :=
    readsOn_of_openers (List.forall_mem_append.2 ⟨isOpener_lead _, isOpener_opening c⟩)
  obtain ⟨s, hsteps, hs, hverbose⟩ := exists_steps_row h (textOf (combinator.lead ++ c.opening) ++ more)
  rw [ComesTo, textOf_append]
  exact exists_arrives_of_readsOn hreads hsteps hs hverbose hmore

/-- A bar behind the last alternative makes it one of a row. -/
theorem alternativeSegments_concat (hne : cs ≠ []) :
    alternativeSegments cs ++ [.own "|"] = rowSegments .or cs := by
  obtain ⟨first, last, rfl⟩ : ∃ first last, cs = first ++ [last] :=
    ⟨_, _, (List.dropLast_concat_getLast hne).symm⟩
  rw [alternativeSegments, List.map_append, List.map_singleton, intercalate_concat, List.flatMap_map]
  simp [rowSegments, Combinator.lead, Combinator.trail]

theorem comesTo_alternative (h : alternativeSegments cs = front ++ .literal value :: back)
    (halone : LeaveAlone .or (splicedIn front)) : ComesTo front (escapeChars value.toList ++ textOf back) := by
  have hne : cs ≠ [] := by
    rintro rfl
    simp [alternativeSegments] at h
  have hrow : rowSegments .or cs = front ++ .literal value :: (back ++ [.own "|"]) := by
    rw [← alternativeSegments_concat hne, h, List.append_assoc, List.cons_append]
  obtain ⟨before, c, after, rfl, hback, hpatterns⟩ := exists_of_rowSegments_eq hrow
  rw [hpatterns] at halone
  have hplain : IsPlainEnd (textOf back ++ textOf [.own "|"]) := by
    rw [← textOf_append, hback, List.append_assoc, textOf_append]
    exact isPlainEnd_closing _ (isPlainEnd_cons (by decide))
  exact comesTo_behind_row c halone (isPlainEnd_escapeChars (isPlainEnd_of_append hplain))

theorem exists_of_concat_eq {α : Type} {xs front back : List α} {a b : α}
    (h : xs ++ [b] = front ++ a :: back) (hne : a ≠ b) :
    ∃ beyond, xs = front ++ a :: beyond ∧ back = beyond ++ [b] := by
  rcases List.eq_nil_or_concat' back with rfl | ⟨beyond, d, rfl⟩
  · exact absurd (List.cons.inj (List.append_inj_right' h rfl)).1.symm hne
  · rw [← List.cons_append, ← List.append_assoc] at h
    obtain ⟨rfl, hlast⟩ := List.append_inj' h rfl
    exact ⟨beyond, rfl, by rw [hlast]⟩

theorem comesTo_lookahead (h : lookaheadSegments cs = front ++ .literal value :: back)
    (halone : LeaveAlone .and (splicedIn front)) : ComesTo front (escapeChars value.toList ++ textOf back) := by
  obtain ⟨beyond, hrow, rfl⟩ := exists_of_concat_eq h nofun
  obtain ⟨before, c, after, rfl, rfl, hpatterns⟩ := exists_of_rowSegments_eq hrow
  rw [hpatterns] at halone
  refine comesTo_behind_row c halone (isPlainEnd_escapeChars ?_)
  rw [List.append_assoc, List.append_assoc, textOf_append]
  exact isPlainEnd_closing _ (isPlainEnd_cons (by decide))

theorem comesTo_anchored (h : anchoredSegments cs = front ++ .literal value :: back) :
    ComesTo front (escapeChars value.toList ++ textOf back) := by
  have hreads : ∀ p ∈ anchoredSegments cs, ReadsOn p.text := by
    have hedge (op : Operator) : ∀ p ∈ edgeSegments op cs, ReadsOn p.text :=
      List.forall_mem_map.2 fun c _ => .literal c.value.toList
    have hbetween : ∀ p ∈ (betweenOf cs).flatMap fun c => [Segment.own ".*", Segment.literal c.value],
        ReadsOn p.text := by
      simp only [List.mem_flatMap, List.mem_cons, List.not_mem_nil, or_false]
      rintro p ⟨c, -, rfl | rfl⟩
      · exact .anything
      · exact .literal c.value.toList
    simp only [anchoredSegments, List.forall_mem_append, List.forall_mem_cons]
    refine ⟨?_, .caret, hedge _, hbetween, .anything, hedge _, .dollar, nofun⟩
    rw [flagSegments]
    split
    · nofun
    · exact List.forall_mem_singleton.2 .ignoreCase
  rw [h, List.forall_mem_append, List.forall_mem_cons] at hreads
  obtain ⟨hfront, -, hback⟩ := hreads
  refine comesTo_of_readsOn (readsOn_textOf hfront) (isPlainEnd_escapeChars ?_)
  rw [← List.append_nil (textOf back)]
  exact (readsOn_textOf hback).plain [] isPlainEnd_nil

/-- Reading comes to each literal where layout counts if the patterns of users in front of it leave it
alone. -/
theorem comesTo_literal (h : segmentsOf cs combinator = front ++ .literal value :: back)
    (halone : LeaveAlone combinator (splicedIn front)) :
    ComesTo front (escapeChars value.toList ++ textOf back) := by
  unfold segmentsOf at h
  split at h
  · next c =>
    have hsingle : [] ++ (c.segments ++ []) = front ++ .literal value :: back := by simpa using h
    obtain ⟨rfl, rfl⟩ := eq_of_segments_eq (by simp) (by simp) hsingle
    refine comesTo_of_readsOn (readsOn_of_openers (isOpener_opening c)) (isPlainEnd_escapeChars ?_)
    rw [textOf_append]
    exact isPlainEnd_closing _ isPlainEnd_nil
  · exact comesTo_alternative h halone
  · split at h
    · exact comesTo_anchored h
    · exact comesTo_lookahead h halone

/-- Wherever an escaped value is put, it is read as itself exactly if reading comes to it and layout
counts there, or it has no layout in it. Hence it is, next to whatever else there is in the pattern, if
the patterns of users in front of it leave it alone. The escape can be taken away again. -/
theorem literal_reads_verbatim (h : segmentsOf cs combinator = front ++ .literal value :: back) :
    (LeaveAlone combinator (splicedIn front) → Verbatim (textOf front) value.toList (textOf back)) ∧
    (Verbatim (textOf front) value.toList (textOf back) ↔
      ∃ r, Arrives (textOf front) (escapeChars value.toList ++ textOf back) r ∧
        (r.isVerbose = false ∨ IsSolid value.toList)) ∧
    (∀ ds pattern, validOf ds = cs → compile ds combinator = .ok (.compiled pattern) →
      pattern.toList = textOf front ++ (escapeChars value.toList ++ textOf back)) ∧
    (∀ c, cs = [c] → c.fragment.toList = textOf front ++ (escapeChars value.toList ++ textOf back)) ∧
    unescapeChars (escapeChars value.toList) = value.toList := by
  have htext : textOf (segmentsOf cs combinator) =
      textOf front ++ (escapeChars value.toList ++ textOf back) := by
    rw [h, textOf_append, textOf_cons]
    rfl
  refine ⟨fun halone => ?_, verbatim_iff, ?_, ?_, unescapeChars_escapeChars _⟩
  · obtain ⟨r, hr, hverbose⟩ := comesTo_literal h halone
    exact verbatim_iff.2 ⟨r, hr, .inl hverbose⟩
  · rintro ds pattern rfl hcompile
    rw [← htext, textOf_segmentsOf hcompile]
  · rintro c rfl
    rw [← htext, ← c.textOf_segments]
    cases combinator <;> rfl

end

/-- A value with a sign, a blank and a number sign, behind a pattern. -/
def signsBehindPattern : List Condition :=
  [{ id := "1", operator := .matches, value := "(?i)HDR(?x: 10 )?" },
    { id := "2", operator := .notContains, value := "a+ #b", caseSensitive := .bool true }]

theorem signsBehindPattern_verbatim : ∃ front back,
    segmentsOf signsBehindPattern .or = front ++ .literal "a+ #b" :: back ∧
      Verbatim (textOf front) "a+ #b".toList (textOf back) := by
  have hsegments : segmentsOf signsBehindPattern .or =
      [.spliced "(?i)HDR(?x: 10 )?", .own "|", .own "^", .own "(?!", .own ".*"] ++
        .literal "a+ #b" :: [.own ")", .own ".*", .own "$"] := by decide
  refine ⟨_, _, hsegments, (literal_reads_verbatim hsegments).1 ?_⟩
  have hvalid : IsPattern "(?i)HDR(?x: 10 )?".toList :=
    exists_tester_iff_isPattern.1 (exists_read_iff.2 (by decide +kernel))
  exact ⟨by simpa [splicedIn, Segment.patterns] using hvalid, by decide +kernel, .inl (by decide +kernel),
    fun _ => by decide +kernel⟩

def blankBehindPattern : List Condition :=
  [{ id := "1", operator := .matches, value := "(?x)a" }, { id := "2", operator := .contains, value := "b c" }]

/-- Layout goes on not to count behind the bar, and the blank of the value is lost. -/
theorem blank_lost_behind_pattern :
    compile blankBehindPattern .or = .ok (.compiled "(?x)a|(?i)b c") ∧
      segmentsOf (validOf blankBehindPattern) .or =
        [.spliced "(?x)a", .own "|", .own "(?i)"] ++ .literal "b c" :: [] ∧
      (∃ t, Tester.read "(?x)a" = .ok t) ∧ ¬Verbatim "(?x)a|(?i)".toList "b c".toList [] ∧
      ∃ t, Tester.read "(?x)a|(?i)b c" = .ok t ∧ t.accepts "b c" = false := by
  -- the flag, the letter, the bar, the other flag
  have harrives : Arrives "(?x)a|(?i)".toList (escapeChars "b c".toList ++ [])
      ((Reader.after 4 { rest := "(?x)a|(?i)b c".toList }).getD { rest := [] }) :=
    ⟨⟨4, by decide +kernel⟩, by decide +kernel⟩
  refine ⟨by decide +kernel, by decide +kernel, exists_read_iff.2 (by decide +kernel), ?_,
    exists_accepts_iff.2 (by decide +kernel)⟩
  rw [harrives.verbatim_iff]
  decide +kernel

end ReleaseMatch
