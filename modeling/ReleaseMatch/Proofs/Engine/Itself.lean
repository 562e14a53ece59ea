import ReleaseMatch.Proofs.Engine.Literal
import ReleaseMatch.Proofs.Text.Folding
set_option autoImplicit false

/-!
# A word and its literals

The literals of a word read the word where it stands in a text, and whatever else they read has a folding
of the same length. This holds of all words and texts, in either case mode: characters that are the same
letter have foldings of the same length, and a folding is read as a whole.
-/
namespace ReleaseMatch.Pattern

open Text

/-- The nodes read a word, and nothing whose folding is longer or shorter. -/
structure ReadsAlike (word : List Char) (nodes : List Node) : Prop where
  /-- Where the word stands it is read. -/
  itself : ∀ (env : Surroundings) (k : Next) {cs : List Char} {i : Nat}, word <+: cs.drop i →
    (k (.fresh cs (i + word.length))).isSome →
      ((Node.ofList nodes).run env false (.fresh cs i) k).isSome
  /-- What is read has a folding as long as that of the word. -/
  measured : ∀ (env : Surroundings) (k : Next) {cs : List Char} {i : Nat},
    ((Node.ofList nodes).run env false (.fresh cs i) k).isSome →
      ∃ part, part <+: cs.drop i ∧ foldedLength part = foldedLength word ∧
        (k (.fresh cs (i + part.length))).isSome

namespace ReadsAlike

variable {word word' : List Char} {nodes nodes' : List Node}

theorem nil : ReadsAlike [] [] where
  itself _ _ _ _ _ hk := hk
  measured _ _ _ _ hk := ⟨[], List.nil_prefix, rfl, hk⟩

theorem append (h : ReadsAlike word nodes) (h' : ReadsAlike word' nodes') :
    ReadsAlike (word ++ word') (nodes ++ nodes') where
  itself env k cs i hword hk := by
    obtain ⟨hfirst, hsecond⟩ := append_prefix_iff.1 hword
    rw [List.drop_drop] at hsecond
    rw [List.length_append, ← Nat.add_assoc] at hk
    rw [Node.run_ofList_append]
    exact h.itself env _ hfirst (h'.itself env k hsecond hk)
  measured env k cs i hrun := by
    rw [Node.run_ofList_append] at hrun
    obtain ⟨first, hfirst, hlength, hrun⟩ := h.measured env _ hrun
    obtain ⟨second, hsecond, hlength', hk⟩ := h'.measured env k hrun
    refine ⟨first ++ second, append_prefix_iff.2 ⟨hfirst, ?_⟩, ?_, ?_⟩
    · rwa [List.drop_drop]
    · rw [foldedLength_append, foldedLength_append, hlength, hlength']
    · rwa [List.length_append, ← Nat.add_assoc]

theorem alt {a b : Node} (ha : ReadsAlike word [a]) (hb : ReadsAlike word [b]) :
    ReadsAlike word [.alt a b] where
  itself env k cs i hword hk := by
    have := ha.itself env k hword hk
    rw [Node.ofList] at this
    rw [Node.ofList, Node.run, Option.isSome_or, this, Bool.true_or]
  measured env k cs i hrun := by
    rw [Node.ofList, Node.run, Option.isSome_or, Bool.or_eq_true] at hrun
    exact hrun.elim (ha.measured env k) (hb.measured env k)

theorem of_readLiteral {mode : CaseMode} {literal : List Char}
    (hself : ∀ {cs : List Char} {i : Nat}, word <+: cs.drop i →
      readLiteral mode false literal (.of cs i) = some (.of cs (i + word.length)))
    (hread : ∀ {cs : List Char} {i : Nat} {p : Place},
      readLiteral mode false literal (.of cs i) = some p → ∃ part, part <+: cs.drop i ∧
        foldedLength part = foldedLength word ∧ p = .of cs (i + part.length)) :
    ReadsAlike word [.literal mode literal] where
  itself env k cs i hword hk := by
    rw [Node.ofList, Node.run, State.fresh_place, hself hword, Option.bind_some]
    exact hk
  measured env k cs i hrun := by
    rw [Node.ofList, Node.run, State.fresh_place] at hrun
    cases hp : readLiteral mode false literal (.of cs i) with
    | none =>
      rw [hp] at hrun
      exact absurd hrun Bool.false_ne_true
    | some p =>
      obtain ⟨part, hpart, hlength, rfl⟩ := hread hp
      rw [hp, Option.bind_some] at hrun
      exact ⟨part, hpart, hlength, hrun⟩

end ReadsAlike

/-! Reading character by character -/

section

variable {cs word : List Char} {i : Nat}

theorem step_of_cons_prefix {c : Char} (h : c :: word <+: cs.drop i) :
    (Place.of cs i).step false = some (c, .of cs (i + 1)) ∧ word <+: cs.drop (i + 1) := by
  obtain ⟨rest, hrest⟩ := h
  have hi : i < cs.length := lt_length_of_cons_eq_drop hrest
  rw [List.drop_eq_getElem_cons hi] at hrest
  obtain ⟨rfl, htail⟩ := List.cons.inj hrest
  rw [Place.step, if_neg Bool.false_ne_true, Place.forward_of hi]
  exact ⟨rfl, rest, htail⟩

theorem readChars_itself {same : Char → Char → Bool} (hsame : ∀ c, same c c = true)
    (h : word <+: cs.drop i) :
    readChars same false word (.of cs i) = some (.of cs (i + word.length)) := by
  induction word generalizing i with
  | nil => rfl
  | cons c word ih =>
    obtain ⟨hstep, hrest⟩ := step_of_cons_prefix h
    rw [readChars, hstep]
    dsimp only
    rw [if_pos (hsame c), ih hrest, List.length_cons, Nat.add_assoc, Nat.add_comm 1]

theorem step_eq_some {c : Char} {p : Place} (h : (Place.of cs i).step false = some (c, p)) :
    p = .of cs (i + 1) ∧ ∀ part, part <+: cs.drop (i + 1) → c :: part <+: cs.drop i := by
  by_cases hi : i < cs.length
  · rw [Place.step, if_neg Bool.false_ne_true, Place.forward_of hi] at h
    obtain ⟨rfl, rfl⟩ := Prod.mk.inj (Option.some.inj h)
    refine ⟨rfl, fun part hpart => ?_⟩
    rw [List.drop_eq_getElem_cons hi]
    exact (List.prefix_cons_inj _).2 hpart
  · rw [Place.step, if_neg Bool.false_ne_true, Place.forward_of_length_le (Nat.le_of_not_lt hi)] at h
    exact absurd h (by simp)

theorem readChars_measured {same : Char → Char → Bool}
    (hsame : ∀ a c, same a c = true → (matchFold a).length = (matchFold c).length) {p : Place}
    (h : readChars same false word (.of cs i) = some p) :
    ∃ part, part <+: cs.drop i ∧ foldedLength part = foldedLength word ∧
      p = .of cs (i + part.length) := by
  induction word generalizing i with
  | nil => exact ⟨[], List.nil_prefix, rfl, (Option.some.inj h).symm⟩
  | cons a word ih =>
    rw [readChars] at h
    split at h
    · next c q hstep =>
      obtain ⟨rfl, hcons⟩ := step_eq_some hstep
      split at h
      · next hac =>
        obtain ⟨part, hpart, hlength, rfl⟩ := ih h
        refine ⟨c :: part, hcons part hpart, ?_, ?_⟩
        · rw [foldedLength_cons, foldedLength_cons, hsame a c hac, hlength]
        · rw [List.length_cons, Nat.add_assoc, Nat.add_comm 1]
      · exact absurd h (by simp)
    · exact absurd h (by simp)

theorem sameLetter_self (c : Char) : sameLetter c c = true := by
  rw [sameLetter, beq_self_eq_true, Bool.true_or, Bool.true_or]

theorem readsAlike_exact (word : List Char) : ReadsAlike word [.literal .exact word] :=
  .of_readLiteral (readChars_itself fun c => beq_self_eq_true c)
    (readChars_measured fun _ _ heq => by rw [eq_of_beq heq])

theorem readsAlike_simple (word : List Char) : ReadsAlike word [.literal .simple word] :=
  .of_readLiteral (readChars_itself sameLetter_self)
    (readChars_measured fun _ _ hsame => length_matchFold_of_sameLetter hsame)

/-! Reading foldings -/

/-- What is left of a folding is read before the text is. -/
theorem readFolded_rest (rest folded : List Char) (p : Place) :
    readFolded false (rest ++ folded) rest p = readFolded false folded [] p := by
  induction rest with
  | nil => rfl
  | cons c rest ih => rw [List.cons_append, readFolded, if_pos (sameLetter_self c), ih]

theorem readFolded_itself (h : word <+: cs.drop i) :
    readFolded false (word.flatMap matchFold) [] (.of cs i) = some (.of cs (i + word.length)) := by
  induction word generalizing i with
  | nil => rfl
  | cons c word ih =>
    obtain ⟨hstep, hrest⟩ := step_of_cons_prefix h
    obtain ⟨d, rest, hfold⟩ := List.exists_cons_of_ne_nil (matchFold_ne_nil c)
    rw [List.flatMap_cons, hfold, List.cons_append, readFolded, hstep]
    dsimp only
    rw [if_neg Bool.false_ne_true, hfold]
    dsimp only
    rw [if_pos (sameLetter_self d), readFolded_rest, ih hrest, List.length_cons, Nat.add_assoc,
      Nat.add_comm 1]

/-- The characters read fold to what is still asked for, less what was left of the one before. -/
theorem readFolded_measured {folded rest : List Char} {p : Place}
    (h : readFolded false folded rest (.of cs i) = some p) :
    ∃ part, part <+: cs.drop i ∧ rest.length + foldedLength part = folded.length ∧
      p = .of cs (i + part.length) := by
  induction folded generalizing rest i with
  | nil =>
    cases rest with
    | nil => exact ⟨[], List.nil_prefix, rfl, (Option.some.inj h).symm⟩
    | cons d rest => exact absurd h (by simp [readFolded])
  | cons a folded ih =>
    cases rest with
    | cons d rest =>
      -- What is left of a folding is compared first, and takes no character of the text.
      rw [readFolded] at h
      split at h
      · obtain ⟨part, hpart, hlength, hp⟩ := ih h
        refine ⟨part, hpart, ?_, hp⟩
        rw [List.length_cons, List.length_cons, ← hlength]
        omega
      · exact absurd h (by simp)
    | nil =>
      rw [readFolded] at h
      split at h
      · exact absurd h (by simp)
      · next c q hstep =>
        obtain ⟨rfl, hcons⟩ := step_eq_some hstep
        rw [if_neg Bool.false_ne_true] at h
        split at h
        · exact absurd h (by simp)
        · next d rest hfold =>
          split at h
          · obtain ⟨part, hpart, hlength, rfl⟩ := ih h
            refine ⟨c :: part, hcons part hpart, ?_, ?_⟩
            · rw [foldedLength_cons, hfold, List.length_cons, List.length_nil, List.length_cons,
                ← hlength]
              omega
            · rw [List.length_cons, Nat.add_assoc, Nat.add_comm 1]
          · exact absurd h (by simp)

theorem readsAlike_folded (word : List Char) :
    ReadsAlike word [.literal .full (word.flatMap matchFold)] := by
  refine .of_readLiteral readFolded_itself fun {cs i p} h => ?_
  obtain ⟨part, hpart, hlength, hp⟩ := readFolded_measured h
  rw [List.length_nil, Nat.zero_add] at hlength
  exact ⟨part, hpart, hlength, hp⟩

end

/-! Literals -/

theorem readsAlike_simpleLiteral (word : List Char) : ReadsAlike word (simpleLiteral word) := by
  rw [simpleLiteral]
  split
  · next hempty =>
    obtain rfl := List.isEmpty_iff.1 hempty
    exact .nil
  · split
    · exact readsAlike_simple word
    · exact readsAlike_exact word

theorem readsAlike_fullLiteral (word : List Char) : ReadsAlike word (fullLiteral word) := by
  rw [fullLiteral.eq_def]
  split
  · exact .nil
  · next c =>
    split
    · next hfold =>
      have hfolded := readsAlike_folded [c]
      rw [List.flatMap_singleton, hfold] at hfolded
      exact (readsAlike_simple [c]).alt hfolded
    · exact readsAlike_simpleLiteral [c]
  · exact readsAlike_folded _

theorem readsAlike_cutLiteral {word : List Char} {stretches : List (Nat × Nat)} {position : Nat}
    (h : Onward position stretches) :
    ReadsAlike (word.drop position) (cutLiteral word position stretches) := by
  induction stretches generalizing position with
  | nil => exact readsAlike_simpleLiteral _
  | cons s stretches ih =>
    obtain ⟨hstart, hstop, hrest⟩ := h
    rw [cutLiteral, drop_eq_append hstart, drop_eq_append hstop, ← List.append_assoc]
    exact ((readsAlike_simpleLiteral _).append (readsAlike_fullLiteral _)).append (ih hrest)

theorem readsAlike_literals (mode : CaseMode) (word : List Char) :
    ReadsAlike word (literals mode word) := by
  rw [literals]
  split
  · next hempty =>
    obtain rfl := List.isEmpty_iff.1 hempty
    exact .nil
  · split
    · exact readsAlike_exact word
    · split
      · exact readsAlike_simple word
      · exact readsAlike_cutLiteral (longStretches_onward word)

end ReleaseMatch.Pattern
