import ReleaseMatch.Proofs.Conjunction.Spliced
import ReleaseMatch.Proofs.Outcome.Readable
import ReleaseMatch.Proofs.Reading.Row
set_option autoImplicit false

/-!
# Patterns of users

A pattern that is valid by itself need not be valid where it is composed with others: a comment at its
end hides what is put behind it, its groups get other numbers, and in a disjunction its flags go on to
hold. Where no pattern does such a thing to the others, what they are composed to is valid.
-/
namespace ReleaseMatch

open Pattern

def patternsOf (cs : List Condition) : List (List Char) :=
  (cs.filter (·.operator = .matches)).map (·.value.toList)

/-- The conditions whose fragments have something behind them: a parenthesis, or a bar. -/
def followedIn (cs : List Condition) : Combinator → List Condition
  | .and => cs
  | .or => cs.dropLast

/-- The patterns of the conditions keep to themselves. Comments end before what is put behind them. No
group is referred to, or groups are told apart by their names, and by their numbers too if one is called
by its number. In a disjunction, layout still counts behind each pattern, and no two patterns ask for
different character sets. -/
structure KeepApart (combinator : Combinator) (cs : List Condition) : Prop where
  ends : ∀ c ∈ followedIn cs combinator, c.operator = .matches → EndsBeforeStop c.value.toList
  groups : GroupsApart (patternsOf cs)
  layout : combinator = .or → ∀ c ∈ cs.dropLast, c.operator = .matches →
    (endOf c.value.toList).isVerbose = false
  encodings : combinator = .or → EncodingsAgree (patternsOf cs)

instance (combinator : Combinator) (cs : List Condition) : Decidable (KeepApart combinator cs) :=
  decidable_of_iff
    ((∀ c ∈ followedIn cs combinator, c.operator = .matches → EndsBeforeStop c.value.toList) ∧
      GroupsApart (patternsOf cs) ∧
      (combinator = .or → ∀ c ∈ cs.dropLast, c.operator = .matches →
        (endOf c.value.toList).isVerbose = false) ∧
      (combinator = .or → EncodingsAgree (patternsOf cs)))
    ⟨fun h => ⟨h.1, h.2.1, h.2.2.1, h.2.2.2⟩, fun h => ⟨h.ends, h.groups, h.layout, h.encodings⟩⟩

theorem exists_read_iff {pattern : String} :
    (∃ t, Tester.read pattern = .ok t) ↔ (Tester.read pattern).toOption.isSome = true := by
  cases Tester.read pattern with
  | error e => simp [Except.toOption]
  | ok t => simp [Except.toOption]

theorem exists_tester_iff_isPattern {pattern : String} :
    (∃ t, Tester.read pattern = .ok t) ↔ IsPattern pattern.toList :=
  exists_tester_iff.trans exists_read_iff_isPattern

section

variable {cs : List Condition} {c : Condition} {pattern : String} {combinator : Combinator}

theorem mem_patternsOf (hc : c ∈ cs) (h : c.operator = .matches) : c.value.toList ∈ patternsOf cs :=
  List.mem_map_of_mem (List.mem_filter.2 ⟨hc, decide_eq_true h⟩)

theorem fragment_of {p : List Char → Prop} (hplain : ∀ word, IsHarmless word → p word)
    (hpattern : c.operator = .matches → p c.value.toList) : p c.fragment.toList := by
  by_cases hop : c.operator = .matches
  · rw [fragment_matches hop]
    exact hpattern hop
  · exact hplain _ (isHarmless_of_standsFor (Condition.standsFor hop))

theorem namesApart_fragments {c d : Condition}
    (h : c.operator = .matches → d.operator = .matches →
      (endOf c.value.toList).NamesApart (endOf d.value.toList)) :
    (endOf c.fragment.toList).NamesApart (endOf d.fragment.toList) := by
  have hnone {e f : Reader} (he : e.names = []) : e.NamesApart f := fun p hp => by
    rw [he] at hp
    cases hp
  refine fragment_of (p := fun word => (endOf word).NamesApart (endOf d.fragment.toList))
    (fun _ hplain => hnone hplain.names) fun hc => ?_
  exact fragment_of (p := fun word => (endOf c.value.toList).NamesApart (endOf word))
    (fun _ hplain => (hnone hplain.names).symm) fun hd => h hc hd

theorem mentionsNone_fragments (h : ∀ word ∈ patternsOf cs, MentionsNone word) :
    ∀ word ∈ cs.map (·.fragment.toList), MentionsNone word :=
  List.forall_mem_map.2 fun _ hc =>
    fragment_of (fun _ hplain => hplain.mentions) fun hop => h _ (mem_patternsOf hc hop)

theorem pairwise_fragments (h : ((patternsOf cs).map endOf).Pairwise Reader.NamesApart) :
    ((cs.map (·.fragment.toList)).map endOf).Pairwise Reader.NamesApart := by
  rw [patternsOf, List.map_map, List.pairwise_map, List.pairwise_filter] at h
  rw [List.map_map, List.pairwise_map]
  exact h.imp fun hapart => namesApart_fragments fun hc hd =>
    hapart (decide_eq_true hc) (decide_eq_true hd)

theorem groupsApart_fragments (h : GroupsApart (patternsOf cs)) :
    GroupsApart (cs.map (·.fragment.toList)) := by
  rcases h with hnone | ⟨hnames, hcalls⟩
  · exact .inl (mentionsNone_fragments hnone)
  · refine .inr ⟨pairwise_fragments hnames, ?_⟩
    simp only [List.forall_mem_map] at hcalls ⊢
    refine hcalls.imp (fun hcalls c hc => ?_) fun hnodup c hc => ?_
    · refine fragment_of
        (p := fun word => ∀ ref ∈ (endOf word).references, ref.isNumberedCall = false)
        (fun _ hplain => ?_) fun hop => hcalls _ (mem_patternsOf hc hop)
      rw [hplain.references_eq_nil hplain.mentions]
      nofun
    · refine fragment_of (p := fun word => (endOf word).opened.Nodup) (fun _ hplain => ?_) fun hop =>
        hnodup _ (mem_patternsOf hc hop)
      rw [hplain.opened]
      exact List.nodup_nil

theorem encodingsAgree_fragments (h : EncodingsAgree (patternsOf cs)) :
    EncodingsAgree (cs.map (·.fragment.toList)) := by
  have hmem {c : Condition} (hc : c ∈ cs) {f : Flag} (hf : f ∈ (endOf c.fragment.toList).flags)
      (henc : f.isEncoding = true) : ∃ word ∈ patternsOf cs, f ∈ (endOf word).flags := by
    revert hf
    refine fragment_of (p := fun word => f ∈ (endOf word).flags → _) (fun _ hplain hf => ?_)
      fun hop hf => ⟨_, mem_patternsOf hc hop, hf⟩
    rw [hplain.encodings f hf] at henc
    cases henc
  intro v hv w hw f hf g hg hfenc hgenc
  obtain ⟨c, hc, rfl⟩ := List.mem_map.1 hv
  obtain ⟨d, hd, rfl⟩ := List.mem_map.1 hw
  obtain ⟨v, hv, hfv⟩ := hmem hc hf hfenc
  obtain ⟨w, hw, hgw⟩ := hmem hd hg hgenc
  exact h v hv w hw f hfv g hgw hfenc hgenc

theorem toList_composeLookaheads (fragments : List String) :
    (composeLookaheads fragments).toList = lookaheads (fragments.map String.toList) := by
  induction fragments with
  | nil => rfl
  | cons f fragments ih =>
    rw [toList_composeLookaheads_cons, ih]
    simp [lookaheads]

/-- Patterns that are valid by themselves and keep apart are composed to a valid pattern, together with
whatever other conditions there are. -/
theorem readable_of_keepApart
    (hread : ∀ c ∈ validOf cs, c.operator = .matches → ∃ t, Tester.read c.value = .ok t)
    (hapart : 2 ≤ (validOf cs).length → KeepApart combinator (validOf cs))
    (hcompile : compile cs combinator = .ok (.compiled pattern)) :
    ∃ t, Tester.read pattern = .ok t := by
  have hpatterns : ∀ c ∈ validOf cs, IsPattern c.fragment.toList := fun c hc =>
    fragment_of (fun _ hplain => hplain.toIsPattern) fun hop =>
      exists_tester_iff_isPattern.1 (hread c hc hop)
  rw [exists_tester_iff_isPattern]
  have hwords : ∀ word ∈ (validOf cs).map (·.fragment.toList), IsPattern word :=
    List.forall_mem_map.2 hpatterns
  rcases compile_eq_compiled_cases hcompile with ⟨c, hvalid, rfl⟩ | ⟨htwo, ⟨rfl, rfl⟩ | ⟨rfl, hand⟩⟩
  · exact hpatterns c (by simp [hvalid])
  · obtain ⟨hends, hgroups, hlayout, hencodings⟩ := hapart htwo
    have hne : (validOf cs).map (·.fragment.toList) ≠ [] :=
      List.ne_nil_of_length_pos (by rw [List.length_map]; omega)
    rw [combineOr, String.toList_intercalate, List.map_map]
    refine isPattern_alternatives hne hwords ?_ (groupsApart_fragments hgroups)
      (encodingsAgree_fragments (hencodings rfl))
    rw [← List.map_dropLast]
    refine List.forall_mem_map.2 fun c hc => ⟨?_, ?_⟩
    · exact fragment_of (fun _ hplain => hplain.ends) (hends c hc)
    · exact fragment_of (p := fun word => (endOf word).isVerbose = false)
        (fun _ hplain => hplain.layout) (hlayout rfl c hc)
  · obtain ⟨hends, hgroups, -⟩ := hapart htwo
    -- A pattern has no place in an anchored expression, so with one the lookaheads are used.
    by_cases hmatches : ∃ c ∈ validOf cs, c.operator = .matches
    · obtain ⟨rfl, -⟩ := compile_matches htwo hmatches hcompile
      rw [toList_composeLookaheads, List.map_map]
      refine isPattern_lookaheads hwords (List.forall_mem_map.2 fun c hc => ?_)
        (groupsApart_fragments hgroups)
      exact fragment_of (fun _ hplain => hplain.ends) (hends c hc)
    · rw [← exists_tester_iff_isPattern]
      exact exists_read_of_combineAnd (List.ne_nil_of_length_pos (by omega))
        (fun c hc hop => hmatches ⟨c, hc, hop⟩) hand

end

/-- Patterns with names, references and a comment, and a value. -/
def sizeAndSource : List Condition :=
  [{ id := "1", operator := .matches, value := "(?i)(?P<size>720|1080)p.*(?P=size)" },
    { id := "2", operator := .matches, value := "(?#source)(WEB|(?P<disc>BD))(?(disc)Rip)" },
    { id := "3", operator := .contains, value := "x264", caseSensitive := .bool true }]

theorem sizeAndSource_readable :
    (∃ pattern t, compile sizeAndSource .and = .ok (.compiled pattern) ∧
      Tester.read pattern = .ok t) ∧
    ∃ pattern t, compile sizeAndSource .or = .ok (.compiled pattern) ∧ Tester.read pattern = .ok t := by
  have hread : ∀ c ∈ validOf sizeAndSource, c.operator = .matches →
      ∃ t, Tester.read c.value = .ok t := by
    simp only [exists_read_iff]
    decide +kernel
  have hand : compile sizeAndSource .and =
      .ok (.compiled (composeLookaheads (sizeAndSource.map (·.fragment)))) := by decide +kernel
  have hor : compile sizeAndSource .or =
      .ok (.compiled (combineOr (sizeAndSource.map (·.fragment)))) := by decide +kernel
  obtain ⟨t, ht⟩ := readable_of_keepApart hread (fun _ => by decide +kernel) hand
  obtain ⟨t', ht'⟩ := readable_of_keepApart hread (fun _ => by decide +kernel) hor
  exact ⟨⟨_, t, hand, ht⟩, _, t', hor, ht'⟩

/-- A comment at the end of a pattern hides the parenthesis that closes its lookahead. -/
theorem comment_hides_parenthesis :
    compile (patternAndValue "(?x)a #b" "c") .and = .ok (.compiled "(?=.*(?x)a #b)(?=.*c).*") ∧
      (∃ t, Tester.read "(?x)a #b" = .ok t) ∧ ¬∃ t, Tester.read "(?=.*(?x)a #b)(?=.*c).*" = .ok t := by
  rw [exists_read_iff, exists_read_iff]
  exact ⟨compile_patternAndValue (by decide), by decide +kernel, by decide +kernel⟩

/- Groups of one name, layout that goes on not to count, and two character sets: the patterns in each row
are valid by themselves. -/
example : ∀ pattern ∈ ["(?=.*(?P<n>a)(?&n))(?=.*(?P<n>b)).*", "(?x)a|( #)", "(?a)x|(?u)y"],
    (Tester.read pattern).toOption.isSome = false := by decide +kernel

end ReleaseMatch
