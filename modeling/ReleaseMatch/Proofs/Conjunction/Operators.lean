import ReleaseMatch.Proofs.Conjunction.Compile
import ReleaseMatch.Proofs.Conjunction.Single
import ReleaseMatch.Proofs.Engine.Literal
set_option autoImplicit false

/-!
# What operators say

The pattern of a condition on a value matches exactly the texts that stand to the value as its operator
says: that have it somewhere or nowhere, at the start or at the end, that are it, or that have it as a word
of its own.
-/
namespace ReleaseMatch

open Pattern Text

/-- A place in a text with a character of a word on one side alone. -/
def WordEdge (before after : List Char) : Prop :=
  before.getLast?.any isWord ≠ after.head?.any isWord

instance (before after : List Char) : Decidable (WordEdge before after) :=
  inferInstanceAs (Decidable (_ ≠ _))

/-- What an operator says of a value and a text. Operators that take no literal value say nothing. -/
def Operator.Says (op : Operator) (value text : List Char) : Prop :=
  match op with
  | .contains => value <:+: text
  | .notContains => ¬value <:+: text
  | .startsWith => value <+: text
  | .endsWith => value <:+ text
  | .equals => text = value
  | .wordBoundary => ∃ before after, text = before ++ value ++ after ∧
      WordEdge before (value ++ after) ∧ WordEdge (before ++ value) after
  | .matches | .isEmpty | .isNotEmpty => False

section

variable {key : Char → Char} {cs word : List Char} {nodes : List Node} {i : Nat}

/-! Where an anchor holds in front of nodes or behind them -/

theorem startsAt_iff_of_reads (h : Reads key cs word nodes) (hi : i ≤ cs.length) :
    (Node.ofList nodes).startsAt cs i = true ↔ word.map key <+: (cs.map key).drop i := by
  rw [Node.startsAt, h .none some i hi]
  split <;> simp [*]

theorem startsAt_anchor_cons (a : Anchor) (nodes : List Node) :
    (Node.ofList (.anchor a :: nodes)).startsAt cs i = true ↔
      a.holds (.of cs i) = true ∧ (Node.ofList nodes).startsAt cs i = true := by
  rw [Node.startsAt, Node.run_ofList_cons, Node.run, State.fresh_place]
  by_cases ha : a.holds (.of cs i) = true
  · simp [ha, Node.startsAt]
  · simp [ha]

theorem startsAt_append_anchor (h : Reads key cs word nodes) (a : Anchor) (hi : i ≤ cs.length) :
    (Node.ofList (nodes ++ [.anchor a])).startsAt cs i = true ↔
      word.map key <+: (cs.map key).drop i ∧ a.holds (.of cs (i + word.length)) = true := by
  rw [Node.startsAt, Node.run_ofList_append, h .none _ i hi]
  by_cases hword : word.map key <+: (cs.map key).drop i
  · simp only [hword, if_true, true_and, Node.ofList, Node.run, State.fresh_place]
    by_cases ha : a.holds (.of cs (i + word.length)) = true
    · simp [ha]
    · simp [ha]
  · simp [hword]

/-- Looking ahead for nodes from the start of the text decides. What comes behind the look never fails,
so the nodes begin nowhere in the text. -/
theorem startsAt_notContains_iff (nodes : List Node) (hcs : '\n' ∉ cs) :
    (∃ i ≤ cs.length, (Node.ofList (Operator.notContains.templateNodes nodes)).startsAt cs i = true) ↔
      ¬∃ i ≤ cs.length, (Node.ofList nodes).startsAt cs i = true := by
  have hahead : (Node.ofList (Node.anything :: nodes)).startsAt cs 0 = true ↔
      ∃ i ≤ cs.length, (Node.ofList nodes).startsAt cs i = true := by
    rw [Node.startsAt_anything hcs (Nat.zero_le _)]
    simp only [Nat.zero_le, true_and]
  have hbehind : ((Node.ofList [Node.anything, .anchor .lastLineEnd]).run .none false
      (.fresh cs 0) some).isSome = true := by
    rw [Node.run_ofList_cons, Node.run_anything_isSome_iff hcs (Nat.zero_le _) rfl]
    refine ⟨cs.length, Nat.zero_le _, Nat.le_refl _, ?_⟩
    rw [State.fresh_at_of, Node.ofList, Node.run, State.fresh_place,
      if_pos ((Place.lastLineEnd_of hcs (Nat.le_refl _)).2 rfl)]
    rfl
  have hlook : (Node.ofList [.look false false (.ofList (Node.anything :: nodes)), Node.anything,
      .anchor .lastLineEnd]).startsAt cs 0 = true ↔
      ¬∃ i ≤ cs.length, (Node.ofList nodes).startsAt cs i = true := by
    rw [← hahead, Node.startsAt, Node.run_ofList_cons, Node.run, Node.startsAt]
    cases (Node.ofList (Node.anything :: nodes)).run .none false (.fresh cs 0) some with
    | some t => simp
    | none => simpa using hbehind
  constructor
  · rintro ⟨i, hi, hstarts⟩
    obtain ⟨hstart, hstarts⟩ := (startsAt_anchor_cons _ _).1 hstarts
    obtain rfl := (Place.isStart_of hi).1 hstart
    exact hlook.1 hstarts
  · intro hno
    exact ⟨0, Nat.zero_le _, (startsAt_anchor_cons _ _).2
      ⟨(Place.isStart_of (Nat.zero_le _)).2 rfl, hlook.2 hno⟩⟩

theorem any_getLast?_map (hkey : ∀ c ∈ cs, isWord (key c) = isWord c) :
    (cs.map key).getLast?.any isWord = cs.getLast?.any isWord := by
  rw [List.getLast?_map]
  cases hlast : cs.getLast? with
  | none => rfl
  | some c => exact hkey c (List.mem_of_getLast? hlast)

theorem any_head?_map (hkey : ∀ c ∈ cs, isWord (key c) = isWord c) :
    (cs.map key).head?.any isWord = cs.head?.any isWord := by
  rw [List.head?_map]
  cases hhead : cs.head? with
  | none => rfl
  | some c => exact hkey c (List.mem_of_head? hhead)

theorem boundary_holds_iff (hkey : ∀ c ∈ cs, isWord (key c) = isWord c) :
    Anchor.holds (.of cs i) (.boundary .word) = true ↔
      WordEdge ((cs.map key).take i) ((cs.map key).drop i) := by
  rw [WordEdge, ← List.map_take, ← List.map_drop,
    any_getLast?_map fun c hc => hkey c (List.mem_of_mem_take hc),
    any_head?_map fun c hc => hkey c (List.mem_of_mem_drop hc)]
  simp [Anchor.holds, Place.previousIs, Place.nextIs, Place.of, Property.has]

/-! Each operator -/

section

variable (h : Reads key cs word nodes)

include h

theorem contains_says : (∃ i ≤ cs.length, (Node.ofList nodes).startsAt cs i = true) ↔
    word.map key <:+: cs.map key := by
  constructor
  · rintro ⟨i, hi, hstarts⟩
    exact ((startsAt_iff_of_reads h hi).1 hstarts).isInfix.trans (List.drop_suffix _ _).isInfix
  · rintro ⟨before, after, heq⟩
    have hlen := congrArg List.length heq
    simp only [List.length_append, List.length_map] at hlen
    refine ⟨before.length, by omega, (startsAt_iff_of_reads h (by omega)).2 ?_⟩
    rw [← heq, List.append_assoc, List.drop_left]
    exact List.prefix_append _ _

theorem startsWith_says :
    (∃ i ≤ cs.length, (Node.ofList (.anchor .textStart :: nodes)).startsAt cs i = true) ↔
      word.map key <+: cs.map key := by
  constructor
  · rintro ⟨i, hi, hstarts⟩
    obtain ⟨hstart, hword⟩ := (startsAt_anchor_cons _ _).1 hstarts
    obtain rfl := (Place.isStart_of hi).1 hstart
    exact (startsAt_iff_of_reads h hi).1 hword
  · intro hword
    refine ⟨0, Nat.zero_le _, (startsAt_anchor_cons _ _).2 ⟨?_, ?_⟩⟩
    · exact (Place.isStart_of (Nat.zero_le _)).2 rfl
    · exact (startsAt_iff_of_reads h (Nat.zero_le _)).2 hword

theorem startsAt_end_iff (hcs : '\n' ∉ cs) (hi : i ≤ cs.length) :
    (Node.ofList (nodes ++ [.anchor .lastLineEnd])).startsAt cs i = true ↔
      (cs.map key).drop i = word.map key := by
  rw [startsAt_append_anchor h _ hi]
  constructor
  · rintro ⟨hword, hend⟩
    rw [Place.lastLineEnd_of hcs (length_le_of_starts hword hi)] at hend
    refine (hword.eq_of_length ?_).symm
    rw [List.length_map, List.length_drop, List.length_map]
    omega
  · intro heq
    have hword : word.map key <+: (cs.map key).drop i := heq ▸ List.prefix_refl _
    have hlen := congrArg List.length heq
    rw [List.length_map, List.length_drop, List.length_map] at hlen
    exact ⟨hword, (Place.lastLineEnd_of hcs (length_le_of_starts hword hi)).2 (by omega)⟩

theorem endsWith_says (hcs : '\n' ∉ cs) :
    (∃ i ≤ cs.length, (Node.ofList (nodes ++ [.anchor .lastLineEnd])).startsAt cs i = true) ↔
      word.map key <:+ cs.map key := by
  constructor
  · rintro ⟨i, hi, hstarts⟩
    rw [startsAt_end_iff h hcs hi] at hstarts
    rw [← hstarts]
    exact List.drop_suffix _ _
  · rintro ⟨before, heq⟩
    have hlen := congrArg List.length heq
    simp only [List.length_append, List.length_map] at hlen
    refine ⟨before.length, by omega, (startsAt_end_iff h hcs (by omega)).2 ?_⟩
    rw [← heq, List.drop_left]

theorem equals_says (hcs : '\n' ∉ cs) :
    (∃ i ≤ cs.length, (Node.ofList (.anchor .textStart :: (nodes ++ [.anchor .lastLineEnd]))).startsAt
      cs i = true) ↔ cs.map key = word.map key := by
  have hwhole := startsAt_end_iff h hcs (Nat.zero_le cs.length)
  rw [List.drop_zero] at hwhole
  constructor
  · rintro ⟨i, hi, hstarts⟩
    obtain ⟨hstart, hword⟩ := (startsAt_anchor_cons _ _).1 hstarts
    obtain rfl := (Place.isStart_of hi).1 hstart
    exact hwhole.1 hword
  · intro heq
    exact ⟨0, Nat.zero_le _, (startsAt_anchor_cons _ _).2
      ⟨(Place.isStart_of (Nat.zero_le _)).2 rfl, hwhole.2 heq⟩⟩

theorem wordBoundary_says (hkey : ∀ c ∈ cs, isWord (key c) = isWord c) :
    (∃ i ≤ cs.length, (Node.ofList (.anchor (.boundary .word) ::
      (nodes ++ [.anchor (.boundary .word)]))).startsAt cs i = true) ↔
      Operator.wordBoundary.Says (word.map key) (cs.map key) := by
  -- The text is cut in front of the word and behind it.
  have hcut {i : Nat} {after : List Char} (hafter : word.map key ++ after = (cs.map key).drop i) :
      (cs.map key).take (i + word.length) = (cs.map key).take i ++ word.map key ∧
        (cs.map key).drop (i + word.length) = after := by
    have hlen : word.length = (word.map key).length := (List.length_map key).symm
    rw [List.take_add, ← List.drop_drop, ← hafter, hlen, List.take_left, List.drop_left]
    exact ⟨rfl, rfl⟩
  constructor
  · rintro ⟨i, hi, hstarts⟩
    obtain ⟨hfirst, hstarts⟩ := (startsAt_anchor_cons _ _).1 hstarts
    obtain ⟨⟨after, hafter⟩, hlast⟩ := (startsAt_append_anchor h _ hi).1 hstarts
    obtain ⟨htake, hdrop⟩ := hcut hafter
    rw [boundary_holds_iff hkey] at hfirst hlast
    rw [← hafter] at hfirst
    rw [htake, hdrop] at hlast
    refine ⟨_, after, ?_, hfirst, hlast⟩
    rw [List.append_assoc, hafter, List.take_append_drop]
  · rintro ⟨before, after, heq, hfirst, hlast⟩
    have hlen := congrArg List.length heq
    simp only [List.length_append, List.length_map] at hlen
    have htake : (cs.map key).take before.length = before := by
      rw [heq, List.append_assoc, List.take_left]
    have hdrop : word.map key ++ after = (cs.map key).drop before.length := by
      rw [heq, List.append_assoc, List.drop_left]
    obtain ⟨htake', hdrop'⟩ := hcut hdrop
    refine ⟨before.length, by omega, (startsAt_anchor_cons _ _).2 ⟨?_, ?_⟩⟩
    · rwa [boundary_holds_iff hkey, htake, ← hdrop]
    · refine (startsAt_append_anchor h _ (by omega)).2 ⟨⟨after, hdrop⟩, ?_⟩
      rwa [boundary_holds_iff hkey, htake', hdrop', htake]

theorem notContains_says (hcs : '\n' ∉ cs) :
    (∃ i ≤ cs.length, (Node.ofList (Operator.notContains.templateNodes nodes)).startsAt cs i = true) ↔
      ¬word.map key <:+: cs.map key := by
  rw [startsAt_notContains_iff nodes hcs, contains_says h]

theorem templateNodes_says {op : Operator} (hop : op.honoursCase = true) (hcs : '\n' ∉ cs)
    (hkey : ∀ c ∈ cs, isWord (key c) = isWord c) :
    (∃ i ≤ cs.length, (Node.ofList (op.templateNodes nodes)).startsAt cs i = true) ↔
      op.Says (word.map key) (cs.map key) := by
  cases op with
  | contains => exact contains_says h
  | notContains => exact notContains_says h hcs
  | startsWith => exact startsWith_says h
  | endsWith => exact endsWith_says h hcs
  | equals => exact equals_says h hcs
  | wordBoundary => exact wordBoundary_says h hkey
  | «matches» | isEmpty | isNotEmpty => exact absurd hop (by decide)

end
end

def compared (sensitive : Bool) (s : String) : List Char :=
  if sensitive then s.toList else (lowered s).toList

theorem reads_valueNodes {value text : String} {sensitive : Bool}
    (hascii : sensitive = false → value.toList.all isAscii = true ∧ text.toList.all isAscii = true) :
    ∃ key : Char → Char, Reads key text.toList value.toList (valueNodes value sensitive) ∧
      (∀ c ∈ text.toList, isWord (key c) = isWord c) ∧
      compared sensitive value = value.toList.map key ∧
      compared sensitive text = text.toList.map key := by
  cases sensitive with
  | true =>
    exact ⟨id, reads_literals_exact _ _, fun _ _ => rfl, (List.map_id _).symm, (List.map_id _).symm⟩
  | false =>
    obtain ⟨hvalue, htext⟩ := hascii rfl
    exact ⟨simpleFold, reads_literals_full htext hvalue,
      fun c hc => isWord_simpleFold (List.all_eq_true.1 htext c hc),
      toList_lowered_of_isAscii hvalue, toList_lowered_of_isAscii htext⟩

/-- The pattern of a condition on a value matches what its operator says of the value, in any text without
line feeds: as it stands, or in lower case for ASCII. -/
theorem single_condition_accepts_iff {c : Condition} {text : String} (combinator : Combinator)
    (hop : c.operator.honoursCase = true) (hvalue : blank c.value = false)
    (htext : '\n' ∉ text.toList)
    (hascii : c.caseSensitive.isSet = false →
      c.value.toList.all isAscii = true ∧ text.toList.all isAscii = true) :
    ∃ pattern t, compile [c] combinator = .ok (.compiled pattern) ∧ Tester.read pattern = .ok t ∧
      (t.accepts text = true ↔ c.operator.Says (compared c.caseSensitive.isSet c.value)
        (compared c.caseSensitive.isSet text)) := by
  obtain ⟨key, hreads, hkey, hv, ht⟩ := reads_valueNodes hascii
  have hmatches : c.operator ≠ .matches := by
    intro heq
    rw [heq] at hop
    exact absurd hop (by decide)
  have hbare := isBare_ofList (c.isBare_nodes c.caseSensitive.isSet)
  refine ⟨_, _, compile_of_not_blank hvalue combinator, (Condition.standsFor hmatches).tester, ?_⟩
  rw [accepts_ofNodes_iff_startsAt hbare.2, hv, ht]
  exact templateNodes_says hreads hop htext hkey

/-- Up to case the letters in the middle of this word could match a single character too. -/
def officeWord : Condition where
  id := "1"
  operator := .wordBoundary
  value := "Office"
  caseSensitive := .bool false

theorem officeWord_found : ∃ pattern t, compile [officeWord] .and = .ok (.compiled pattern) ∧
    Tester.read pattern = .ok t ∧ t.accepts "The.OFFICE.S01" = true := by
  obtain ⟨pattern, t, hcompile, hread, hsays⟩ :=
    @single_condition_accepts_iff officeWord "The.OFFICE.S01" .and rfl (by decide)
      (by decide) fun _ => by decide
  refine ⟨pattern, t, hcompile, hread, hsays.2 ?_⟩
  exact ⟨"the.".toList, ".s01".toList, by decide +kernel, by decide +kernel, by decide +kernel⟩

/-- Of a condition that asks for a value and one that asks for none of it, exactly one is found in a text
without line feeds: in either case mode, whatever the characters are folded to. -/
theorem contains_xor_notContains {c : Condition} {text : String} (combinator : Combinator)
    (hvalue : blank c.value = false) (htext : '\n' ∉ text.toList) :
    ∃ wanted unwanted t u,
      compile [{ c with operator := .contains }] combinator = .ok (.compiled wanted) ∧
      compile [{ c with operator := .notContains }] combinator = .ok (.compiled unwanted) ∧
      Tester.read wanted = .ok t ∧ Tester.read unwanted = .ok u ∧
      u.accepts text = !t.accepts text := by
  have hcompile (op : Operator) : compile [{ c with operator := op }] combinator =
      .ok (.compiled (op.fragment c.value c.caseSensitive.isSet)) :=
    compile_of_not_blank (c := { c with operator := op }) hvalue combinator
  have hfree (op : Operator) :
      (Node.ofList (op.templateNodes (valueNodes c.value c.caseSensitive.isSet))).isFree = true :=
    (isBare_ofList (isBare_templateNodes op (isBare_literals _ _))).2
  refine ⟨_, _, _, _, hcompile .contains, hcompile .notContains,
    (standsFor_fragment _ _ (by decide)).tester, (standsFor_fragment _ _ (by decide)).tester, ?_⟩
  rw [Bool.eq_not, ne_eq, Bool.eq_iff_iff, accepts_ofNodes_iff_startsAt (hfree .notContains),
    accepts_ofNodes_iff_startsAt (hfree .contains), startsAt_notContains_iff _ htext]
  exact not_iff_self

/-- A value with a letter that is folded to two. -/
def foldedStreet : Condition where
  id := "1"
  operator := .contains
  value := "straße"
  caseSensitive := .bool false

theorem foldedStreet_found : ∃ t u, Tester.read "(?i)straße" = .ok t ∧
    Tester.read "(?i)^(?!.*straße).*$" = .ok u ∧ t.accepts "Die.STRASSE.2019" = true ∧
    u.accepts "Die.STRASSE.2019" = false := by
  obtain ⟨wanted, unwanted, t, u, hwanted, hunwanted, ht, hu, hexact⟩ :=
    @contains_xor_notContains foldedStreet "Die.STRASSE.2019" .and (by decide) (by decide)
  have hcompile {op : Operator} {pattern : String}
      (h : compile [{ foldedStreet with operator := op }] .and = .ok (.compiled pattern)) :
      pattern = op.fragment "straße" false := by
    have hvalue : blank foldedStreet.value = false := by decide
    have hpattern := compile_of_not_blank (c := { foldedStreet with operator := op }) hvalue .and
    exact Outcome.compiled.inj (Except.ok.inj (h.symm.trans hpattern))
  obtain rfl : wanted = "(?i)straße" := (hcompile hwanted).trans (by decide +kernel)
  obtain rfl : unwanted = "(?i)^(?!.*straße).*$" := (hcompile hunwanted).trans (by decide +kernel)
  obtain ⟨t', ht', hfound⟩ := exists_accepts_iff.2
    (show (Tester.read "(?i)straße").toOption.map (·.accepts "Die.STRASSE.2019") = some true by
      decide +kernel)
  obtain rfl := Except.ok.inj (ht.symm.trans ht')
  exact ⟨t, u, ht, hu, hfound, by rw [hexact, hfound]; rfl⟩

end ReleaseMatch
