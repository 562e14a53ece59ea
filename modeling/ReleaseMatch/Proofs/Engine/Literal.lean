import ReleaseMatch.Pattern.Literal
import ReleaseMatch.Proofs.Engine.Search
import ReleaseMatch.Proofs.Text.Ascii
set_option autoImplicit false

/-!
# Reading literals

The literals of a word are read where the text goes on with the word, and nowhere else. Compared exactly
this holds of all words and texts, and up to case of those in ASCII: there the stretches at which a word
is cut make no difference.
-/
namespace ReleaseMatch.Pattern

open Text

theorem append_prefix_iff {α : Type} {u v w : List α} :
    u ++ v <+: w ↔ u <+: w ∧ v <+: w.drop u.length := by
  constructor
  · rintro ⟨rest, rfl⟩
    rw [List.append_assoc, List.drop_left]
    exact ⟨List.prefix_append u _, List.prefix_append v rest⟩
  · rintro ⟨⟨rest, rfl⟩, h⟩
    rw [List.drop_left] at h
    exact (List.prefix_append_right_inj u).2 h

/-- The nodes read a word, its characters compared by a key, and go on behind it. -/
def Reads (key : Char → Char) (cs word : List Char) (nodes : List Node) : Prop :=
  ∀ (env : Surroundings) (k : Next) (i : Nat), i ≤ cs.length →
    (Node.ofList nodes).run env false (.fresh cs i) k =
      if word.map key <+: (cs.map key).drop i then k (.fresh cs (i + word.length)) else none

section

variable {key : Char → Char} {cs word : List Char}

theorem length_le_of_starts {i : Nat} (h : word.map key <+: (cs.map key).drop i)
    (hi : i ≤ cs.length) : i + word.length ≤ cs.length := by
  have hlen := h.length_le
  rw [List.length_map, List.length_drop, List.length_map] at hlen
  omega

theorem Reads.nil : Reads key cs [] [] := fun env k i hi => by
  rw [List.map_nil, if_pos List.nil_prefix]
  rfl

theorem Reads.append {word' : List Char} {nodes nodes' : List Node} (h : Reads key cs word nodes)
    (h' : Reads key cs word' nodes') : Reads key cs (word ++ word') (nodes ++ nodes') := by
  intro env k i hi
  rw [Node.run_ofList_append, h env _ i hi, List.map_append, List.length_append, ← Nat.add_assoc]
  by_cases hword : word.map key <+: (cs.map key).drop i
  · have hrest : ((cs.map key).drop i).drop (word.map key).length =
        (cs.map key).drop (i + word.length) := by
      rw [List.length_map, List.drop_drop]
    rw [if_pos hword, h' env k _ (length_le_of_starts hword hi)]
    simp only [append_prefix_iff, hword, hrest, true_and]
  · rw [if_neg hword, if_neg fun hall => hword (append_prefix_iff.1 hall).1]

/-! Single literals -/

theorem readChars_eq {same : Char → Char → Bool}
    (hsame : ∀ a ∈ word, ∀ c ∈ cs, same a c = decide (key a = key c)) {i : Nat} (hi : i ≤ cs.length) :
    readChars same false word (.of cs i) =
      if word.map key <+: (cs.map key).drop i then some (.of cs (i + word.length)) else none := by
  induction word generalizing i with
  | nil => rw [List.map_nil, if_pos List.nil_prefix]; rfl
  | cons a word ih =>
    rw [List.forall_mem_cons] at hsame
    rw [readChars, Place.step, if_neg Bool.false_ne_true]
    by_cases hlt : i < cs.length
    · have hlen : i + (word.length + 1) = i + 1 + word.length := by omega
      have hdrop : (cs.map key).drop i = key cs[i] :: (cs.map key).drop (i + 1) := by
        rw [← List.map_drop, List.drop_eq_getElem_cons hlt, List.map_cons, List.map_drop]
      rw [Place.forward_of hlt, hdrop]
      dsimp only
      rw [hsame.1 _ (List.getElem_mem hlt), ih hsame.2 hlt, List.map_cons, List.length_cons, hlen]
      by_cases hkey : key a = key cs[i]
      · simp [hkey]
      · simp [hkey]
    · have hle : (cs.map key).length ≤ i := by rw [List.length_map]; exact Nat.le_of_not_lt hlt
      rw [Place.forward_of_length_le (Nat.le_of_not_lt hlt), List.drop_eq_nil_of_le hle]
      simp

theorem reads_of_readLiteral {mode : CaseMode} {literal : List Char}
    (h : ∀ i ≤ cs.length, readLiteral mode false literal (.of cs i) =
      if word.map key <+: (cs.map key).drop i then some (.of cs (i + word.length)) else none) :
    Reads key cs word [.literal mode literal] := by
  intro env k i hi
  rw [Node.ofList, Node.run, State.fresh_place, h i hi]
  split
  · rfl
  · rfl

theorem reads_exact (cs word : List Char) : Reads id cs word [.literal .exact word] :=
  reads_of_readLiteral fun _ hi => readChars_eq (fun _ _ _ _ => rfl) hi

end

/-! Literals in ASCII -/

section

variable {cs word : List Char} (hcs : cs.all isAscii = true) (hword : word.all isAscii = true)

include hcs hword

theorem reads_simpleLiteral : Reads simpleFold cs word (simpleLiteral word) := by
  rw [List.all_eq_true] at hcs hword
  rw [simpleLiteral]
  split
  · next hempty =>
    obtain rfl := List.isEmpty_iff.1 hempty
    exact .nil
  · split
    · refine reads_of_readLiteral fun i hi => ?_
      change readChars sameLetter false word (.of cs i) = _
      refine readChars_eq (fun a ha c hc => ?_) hi
      exact sameLetter_of_isAscii (hword a ha) (hcs c hc)
    · next hcase =>
      refine reads_of_readLiteral fun i hi => ?_
      change readChars (· == ·) false word (.of cs i) = _
      refine readChars_eq (fun a ha c hc => ?_) hi
      have hno : hasCase a = false := by
        simpa using List.any_eq_false.1 (Bool.of_not_eq_true hcase) a ha
      change decide (a = c) = _
      exact decide_eq_decide.2
        ⟨congrArg simpleFold, eq_of_simpleFold_eq (hword a ha) (hcs c hc) hno⟩

omit hword in
theorem readFolded_eq (folded : List Char) {i : Nat} (hi : i ≤ cs.length) :
    readFolded false folded [] (.of cs i) =
      readChars (fun a c => sameLetter a (foldOne c)) false folded (.of cs i) := by
  induction folded generalizing i with
  | nil => rfl
  | cons a folded ih =>
    rw [readFolded, readChars, Place.step, if_neg Bool.false_ne_true]
    by_cases hlt : i < cs.length
    · have hc := List.all_eq_true.1 hcs _ (List.getElem_mem hlt)
      rw [Place.forward_of hlt]
      simp only [Bool.false_eq_true, if_false, matchFold_of_isAscii hc, ih hlt]
    · rw [Place.forward_of_length_le (Nat.le_of_not_lt hlt)]

theorem reads_foldedLiteral : Reads simpleFold cs word [.literal .full (word.flatMap matchFold)] := by
  rw [List.all_eq_true] at hword
  have hfolded : word.flatMap matchFold = word.map foldOne := by
    rw [List.map_eq_flatMap, List.flatMap_def, List.flatMap_def,
      List.map_congr_left fun a ha => matchFold_of_isAscii (hword a ha)]
  have hkey : (word.map foldOne).map simpleFold = word.map simpleFold := by
    rw [List.map_map]
    exact List.map_congr_left fun a ha => simpleFold_foldOne (hword a ha)
  refine reads_of_readLiteral fun i hi => ?_
  change readFolded false (word.flatMap matchFold) [] (.of cs i) = _
  rw [hfolded, readFolded_eq hcs _ hi, @readChars_eq simpleFold _ _ _ (fun a ha c hc => ?_) _ hi, hkey, List.length_map]
  obtain ⟨b, hb, rfl⟩ := List.mem_map.1 ha
  have hc := List.all_eq_true.1 hcs c hc
  rw [sameLetter_of_isAscii (isAscii_foldOne (hword b hb)) (isAscii_foldOne hc), simpleFold_foldOne hc]

theorem reads_fullLiteral : Reads simpleFold cs word (fullLiteral word) := by
  rw [fullLiteral.eq_def]
  split
  · exact .nil
  · next c =>
    have hc : isAscii c = true := by simpa using hword
    rw [matchFold_of_isAscii hc]
    exact reads_simpleLiteral hcs hword
  · exact reads_foldedLiteral hcs hword

end

/-! Stretches -/

def Onward : Nat → List (Nat × Nat) → Prop
  | _, [] => True
  | position, s :: rest => position ≤ s.1 ∧ s.1 ≤ s.2 ∧ Onward s.2 rest

def Ordered (s t : Nat × Nat) : Prop := s.1 ≤ t.1 ∧ s.2 ≤ t.2

def IsLong (s : Nat × Nat) : Prop := s.1 + 2 ≤ s.2 ∧ s.2 ≤ s.1 + 3

theorem isLong_of_mem_occurrences {part cs : List Char}
    (hpart : part ⊆ cs → part.length = 2 ∨ part.length = 3) {at_ : Nat} {s : Nat × Nat}
    (h : s ∈ occurrences part cs at_) : IsLong s := by
  induction cs generalizing at_ with
  | nil => exact absurd h (by simp [occurrences])
  | cons c rest ih =>
    rw [occurrences, List.mem_append] at h
    rcases h with h | h
    · split at h
      · next hprefix =>
        have hlen := hpart (List.isPrefixOf_iff_prefix.1 hprefix).subset
        obtain rfl := List.mem_singleton.1 h
        rw [IsLong]
        dsimp only
        omega
      · exact absurd h (by simp)
    · exact ih (fun hsub => hpart (List.subset_cons_of_subset c hsub)) h

/-- One character keeps to itself in matching, though it has a long folding. -/
theorem length_of_mem_longFolds : ∀ row ∈ longFolds,
    row.2 = ['İ'] ∨ row.2.length = 2 ∨ row.2.length = 3 := by
  decide +kernel

theorem mem_insertStretch {s t : Nat × Nat} {xs : List (Nat × Nat)} :
    t ∈ insertStretch s xs ↔ t = s ∨ t ∈ xs := by
  induction xs with
  | nil => simp [insertStretch]
  | cons x xs ih =>
    rw [insertStretch]
    split
    · exact List.mem_cons
    · rw [List.mem_cons, ih, List.mem_cons]
      exact or_left_comm

theorem insertStretch_ordered {s : Nat × Nat} {xs : List (Nat × Nat)} (hs : IsLong s)
    (hlong : ∀ x ∈ xs, IsLong x) (h : xs.Pairwise Ordered) :
    (insertStretch s xs).Pairwise Ordered := by
  induction xs with
  | nil => exact List.pairwise_singleton _ _
  | cons x xs ih =>
    rw [List.forall_mem_cons] at hlong
    rw [List.pairwise_cons] at h
    have hx := hlong.1
    simp only [IsLong] at hs hx
    rw [insertStretch]
    split
    · next hfirst =>
      simp only [Bool.or_eq_true, decide_eq_true_eq, Bool.and_eq_true] at hfirst
      have hsx : Ordered s x := by
        rw [Ordered]
        omega
      refine List.pairwise_cons.2 ⟨List.forall_mem_cons.2 ⟨hsx, fun y hy => ?_⟩, List.pairwise_cons.2 h⟩
      exact ⟨Nat.le_trans hsx.1 (h.1 y hy).1, Nat.le_trans hsx.2 (h.1 y hy).2⟩
    · next hfirst =>
      simp only [Bool.or_eq_true, decide_eq_true_eq, Bool.and_eq_true] at hfirst
      have hxs : Ordered x s := by
        rw [Ordered]
        omega
      refine List.pairwise_cons.2 ⟨fun y hy => ?_, ih hlong.2 h.2⟩
      rcases mem_insertStretch.1 hy with rfl | hy
      · exact hxs
      · exact h.1 y hy

theorem foldr_insertStretch_ordered {found : List (Nat × Nat)} (h : ∀ s ∈ found, IsLong s) :
    (found.foldr insertStretch []).Pairwise Ordered ∧
      ∀ s ∈ found.foldr insertStretch [], IsLong s := by
  induction found with
  | nil => exact ⟨.nil, by simp⟩
  | cons s found ih =>
    rw [List.forall_mem_cons] at h
    obtain ⟨hordered, hlong⟩ := ih h.2
    refine ⟨insertStretch_ordered h.1 hlong hordered, fun t ht => ?_⟩
    rcases mem_insertStretch.1 ht with rfl | ht
    · exact h.1
    · exact hlong t ht

/-- Merging ordered stretches leaves none that touches another. What is left starts where the first of
them does and stops no earlier. -/
theorem mergeStretches_onward {xs : List (Nat × Nat)} (hle : ∀ x ∈ xs, x.1 ≤ x.2)
    (h : xs.Pairwise Ordered) {position : Nat} (hposition : ∀ x ∈ xs, position ≤ x.1) :
    Onward position (mergeStretches xs) ∧ ∀ t more, mergeStretches xs = t :: more →
      ∃ x rest, xs = x :: rest ∧ t.1 = x.1 ∧ x.2 ≤ t.2 := by
  induction xs generalizing position with
  | nil => exact ⟨trivial, by simp [mergeStretches]⟩
  | cons s xs ih =>
    rw [List.forall_mem_cons] at hle hposition
    rw [List.pairwise_cons] at h
    obtain ⟨honward, hfirst⟩ := ih hle.2 h.2 fun x hx => (h.1 x hx).1
    rw [mergeStretches]
    cases hmerged : mergeStretches xs with
    | nil =>
      refine ⟨⟨hposition.1, hle.1, trivial⟩, fun t more ht => ⟨s, xs, rfl, ?_⟩⟩
      obtain ⟨rfl, -⟩ := List.cons.inj ht
      exact ⟨rfl, Nat.le_refl _⟩
    | cons t more =>
      rw [hmerged] at honward
      obtain ⟨hstart, hstop, hmore⟩ := honward
      obtain ⟨x, rest, rfl, htx, hxt⟩ := hfirst t more hmerged
      have hst : s.2 ≤ t.2 := Nat.le_trans (h.1 x List.mem_cons_self).2 hxt
      dsimp only
      -- The first stretch becomes one with the next, or stays apart from it.
      split
      · refine ⟨⟨hposition.1, ?_, ?_⟩, fun u more' hu => ⟨s, _, rfl, ?_⟩⟩
        · exact Nat.le_trans hle.1 (Nat.le_max_left ..)
        · rwa [Nat.max_eq_right hst]
        · obtain ⟨rfl, -⟩ := List.cons.inj hu
          exact ⟨rfl, Nat.le_max_left ..⟩
      · next hapart =>
        refine ⟨⟨hposition.1, hle.1, Nat.le_of_not_le hapart, hstop, hmore⟩,
          fun u more' hu => ⟨s, _, rfl, ?_⟩⟩
        obtain ⟨rfl, -⟩ := List.cons.inj hu
        exact ⟨rfl, Nat.le_refl _⟩

theorem longStretches_onward (cs : List Char) : Onward 0 (longStretches cs) := by
  have hdot : 'İ' ∉ cs.flatMap fun c => (matchFold c).flatMap lower := by
    intro h
    obtain ⟨c, -, h⟩ := List.mem_flatMap.1 h
    obtain ⟨d, -, h⟩ := List.mem_flatMap.1 h
    exact not_mem_lower d h
  have hlong : ∀ s ∈ longFolds.flatMap fun row =>
      occurrences row.2 (cs.flatMap fun c => (matchFold c).flatMap lower) 0, IsLong s := by
    intro s hs
    obtain ⟨row, hrow, hs⟩ := List.mem_flatMap.1 hs
    refine isLong_of_mem_occurrences (fun hsub => ?_) hs
    refine (length_of_mem_longFolds row hrow).resolve_left fun heq => hdot (hsub ?_)
    rw [heq]
    exact List.mem_singleton_self _
  obtain ⟨hordered, hlong⟩ := foldr_insertStretch_ordered hlong
  refine (mergeStretches_onward (fun s hs => ?_) hordered fun _ _ => Nat.zero_le _).1
  have := (hlong s hs).1
  omega

/-! Literals in general -/

section

variable {cs word : List Char}

theorem drop_eq_append {position start : Nat} (h : position ≤ start) :
    word.drop position = (word.take start).drop position ++ word.drop start := by
  rw [List.drop_take, ← Nat.add_sub_of_le h, Nat.add_sub_cancel_left, ← List.drop_drop,
    List.take_append_drop]

theorem reads_cutLiteral (hcs : cs.all isAscii = true) (hword : word.all isAscii = true)
    {stretches : List (Nat × Nat)} {position : Nat} (h : Onward position stretches) :
    Reads simpleFold cs (word.drop position) (cutLiteral word position stretches) := by
  have hpart {part : List Char} (hsub : part ⊆ word) : part.all isAscii = true := by
    rw [List.all_eq_true] at hword ⊢
    exact fun c hc => hword c (hsub hc)
  induction stretches generalizing position with
  | nil => exact reads_simpleLiteral hcs (hpart (List.drop_subset _ _))
  | cons s stretches ih =>
    obtain ⟨hstart, hstop, hrest⟩ := h
    rw [cutLiteral, drop_eq_append hstart, drop_eq_append hstop, ← List.append_assoc]
    refine ((reads_simpleLiteral hcs ?_).append (reads_fullLiteral hcs ?_)).append (ih hrest)
    · exact hpart (List.Subset.trans (List.drop_subset _ _) (List.take_subset _ _))
    · exact hpart (List.Subset.trans (List.drop_subset _ _) (List.take_subset _ _))

theorem reads_literals_full (hcs : cs.all isAscii = true) (hword : word.all isAscii = true) :
    Reads simpleFold cs word (literals .full word) := by
  rw [literals]
  split
  · next hempty =>
    obtain rfl := List.isEmpty_iff.1 hempty
    exact .nil
  · next hsome =>
    split
    · next hcase =>
      have hsimple := reads_simpleLiteral hcs hword
      rw [simpleLiteral, if_neg hsome] at hsimple
      simp only [reduceCtorEq, decide_false, Bool.false_or, Bool.not_eq_true'] at hcase
      rwa [hcase] at hsimple
    · exact reads_cutLiteral hcs hword (longStretches_onward word)

theorem reads_literals_exact (cs word : List Char) : Reads id cs word (literals .exact word) := by
  rw [literals]
  split
  · next hempty =>
    obtain rfl := List.isEmpty_iff.1 hempty
    exact .nil
  · exact reads_exact cs word

end
end ReleaseMatch.Pattern
