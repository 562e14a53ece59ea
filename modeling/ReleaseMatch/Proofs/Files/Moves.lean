import Mathlib.Data.List.Infix
import ReleaseMatch.Proofs.Files.Shape
set_option autoImplicit false

/-!
# Moving what is in a directory

Something in a directory gets a name that is not taken there, and has all that is inside of it taken along.
What is at its name then is what was at the old one, nothing is left there, and all that is inside of neither
stays as it is, the way to the working directory included.
-/
namespace ReleaseMatch.Files.Tree

variable {t : Tree} {above l : Location} {a b : String}

theorem not_isPrefix_sibling (h : a ≠ b) : ¬above ++ [a] <+: above ++ [b] := by
  simp [h]

/-! Keys -/

theorem lookup_map_key {f : Location → Location} {entries : List (Location × Entry)} {l l' : Location}
    (h : ∀ row ∈ entries, f row.1 = l ↔ row.1 = l') :
    (entries.map fun row => (f row.1, row.2)).lookup l = entries.lookup l' := by
  induction entries with
  | nil => rfl
  | cons row rest ih =>
    obtain ⟨hrow, hrest⟩ := List.forall_mem_cons.1 h
    have hkey : (l == f row.1) = (l' == row.1) := by
      rw [Bool.eq_iff_iff, beq_iff_eq, beq_iff_eq, eq_comm, hrow, eq_comm]
    rw [List.map_cons, List.lookup_cons, List.lookup_cons, hkey, ih hrest]

theorem moved_append (source target rest : Location) : moved source target (source ++ rest) = target ++ rest := by
  rw [moved, if_pos (List.isPrefixOf_iff_prefix.2 (List.prefix_append _ _)), List.drop_left]

theorem moved_of_not_isPrefix {source target : Location} (h : ¬source <+: l) : moved source target l = l := by
  rw [moved, if_neg (mt List.isPrefixOf_iff_prefix.1 h)]

/-- Nothing gets to a place from outside of the two. -/
theorem moved_eq_iff_of_not_isPrefix {source target : Location} (hsource : ¬source <+: l) (htarget : ¬target <+: l)
    (key : Location) : moved source target key = l ↔ key = l := by
  by_cases hkey : source <+: key
  · obtain ⟨rest, rfl⟩ := hkey
    rw [moved_append]
    refine iff_of_false ?_ ?_
    · rintro rfl
      exact htarget (List.prefix_append _ _)
    · rintro rfl
      exact hsource (List.prefix_append _ _)
  · rw [moved_of_not_isPrefix hkey]

/-! Removing -/

theorem entry_remove_of_ne {l' : Location} (h : l' ≠ l) : entry? (t.remove l) l' = t.entry? l' := by
  have hlookup : (t.entries.filter (·.1 != l)).lookup l' = t.entries.lookup l' := by
    induction t.entries with
    | nil => rfl
    | cons row rest ih =>
      by_cases hrow : row.1 = l
      · rw [List.filter_cons_of_neg (by simp [hrow]), ih, List.lookup_cons, hrow, beq_eq_false_iff_ne.2 h]
      · rw [List.filter_cons_of_pos (by simp [hrow]), List.lookup_cons, List.lookup_cons, ih]
  unfold entry? remove
  rw [hlookup]

theorem entry_remove_self (h : t.entry? l ≠ some .dir) : entry? (t.remove l) l = none := by
  have hlookup : (t.entries.filter (·.1 != l)).lookup l = none := by
    rw [List.lookup_eq_none_iff]
    intro row hrow
    exact bne_iff_ne.2 (Ne.symm (bne_iff_ne.1 (List.mem_filter.1 hrow).2))
  unfold entry? at h ⊢
  split at h
  · exact absurd rfl h
  · next hprefix => exact (if_neg hprefix).trans hlookup

/-! Renaming -/

theorem entry_rename_target (hfree : t.entry? (above ++ [b]) = none) :
    entry? (t.rename (above ++ [a]) (above ++ [b])) (above ++ [b]) = t.entry? (above ++ [a]) := by
  have hprefix : ¬above ++ [b] <+: t.base := by
    intro hbase
    unfold entry? at hfree
    rw [if_pos (List.isPrefixOf_iff_prefix.2 hbase)] at hfree
    exact absurd hfree (by simp)
  have hlookup : t.entries.lookup (above ++ [b]) = none := by
    unfold entry? at hfree
    rwa [if_neg (mt List.isPrefixOf_iff_prefix.1 hprefix)] at hfree
  have hkey : ∀ row ∈ t.entries, moved (above ++ [a]) (above ++ [b]) row.1 = above ++ [b] ↔
      row.1 = above ++ [a] := by
    intro row hrow
    by_cases hinside : above ++ [a] <+: row.1
    · obtain ⟨rest, hrest⟩ := hinside
      rw [← hrest, moved_append, List.append_right_eq_self, List.append_right_eq_self]
    · rw [moved_of_not_isPrefix hinside]
      refine iff_of_false ?_ ?_
      · intro heq
        exact absurd (List.lookup_eq_none_iff.1 hlookup row hrow) (by simp [heq])
      · intro heq
        exact hinside (heq ▸ List.prefix_refl _)
  unfold entry? rename
  dsimp only
  rw [lookup_map_key hkey]
  by_cases hinside : above ++ [a] <+: t.base
  · obtain ⟨rest, hrest⟩ := hinside
    rw [← hrest, moved_append, if_pos (List.isPrefixOf_iff_prefix.2 (List.prefix_append _ _)),
      if_pos (List.isPrefixOf_iff_prefix.2 (List.prefix_append _ _))]
  · rw [moved_of_not_isPrefix hinside, if_neg (mt List.isPrefixOf_iff_prefix.1 hprefix),
      if_neg (mt List.isPrefixOf_iff_prefix.1 hinside)]

/-- Nothing stays behind, and nothing gets there. -/
theorem not_isPrefix_moved (hne : a ≠ b) (key : Location) : ¬above ++ [a] <+: moved (above ++ [a]) (above ++ [b]) key := by
  by_cases hinside : above ++ [a] <+: key
  · obtain ⟨rest, rfl⟩ := hinside
    rw [moved_append]
    intro hprefix
    have hsame := List.prefix_of_prefix_length_le hprefix (List.prefix_append _ _) (by simp)
    exact not_isPrefix_sibling hne hsame
  · rwa [moved_of_not_isPrefix hinside]

theorem entry_rename_source (hne : a ≠ b) :
    entry? (t.rename (above ++ [a]) (above ++ [b])) (above ++ [a]) = none := by
  have hlookup : (t.entries.map fun row => (moved (above ++ [a]) (above ++ [b]) row.1, row.2)).lookup
      (above ++ [a]) = none := by
    rw [List.lookup_eq_none_iff, List.forall_mem_map]
    intro row _
    have hmoved : ¬above ++ [a] <+: moved (above ++ [a]) (above ++ [b]) row.1 := not_isPrefix_moved hne _
    rw [bne_iff_ne]
    intro heq
    exact hmoved ⟨[], (List.append_nil _).trans heq⟩
  unfold entry? rename
  dsimp only
  rw [if_neg (mt List.isPrefixOf_iff_prefix.1 (not_isPrefix_moved hne _))]
  exact hlookup

/-- What is above the two places is on the way to one exactly if it is on the way to the other. -/
theorem isPrefix_moved_iff (hsource : ¬above ++ [a] <+: l) (htarget : ¬above ++ [b] <+: l) (key : Location) :
    l <+: moved (above ++ [a]) (above ++ [b]) key ↔ l <+: key := by
  by_cases hinside : above ++ [a] <+: key
  · have habove {c : String} (hc : ¬above ++ [c] <+: l) (rest : Location) :
        l <+: above ++ [c] ++ rest ↔ l <+: above := by
      constructor
      · intro hl
        have hshort : l <+: above ++ [c] :=
          (List.prefix_or_prefix_of_prefix hl (List.prefix_append _ rest)).resolve_right hc
        refine (List.prefix_concat_iff.1 hshort).resolve_left ?_
        rintro rfl
        exact hc (List.prefix_refl _)
      · intro hl
        rw [List.append_assoc]
        exact hl.trans (List.prefix_append _ _)
    obtain ⟨rest, rfl⟩ := hinside
    rw [moved_append, habove htarget, habove hsource]
  · rw [moved_of_not_isPrefix hinside]

theorem entry_rename_of_not_isPrefix (hsource : ¬above ++ [a] <+: l) (htarget : ¬above ++ [b] <+: l) :
    entry? (t.rename (above ++ [a]) (above ++ [b])) l = t.entry? l := by
  unfold entry? rename
  dsimp only
  rw [lookup_map_key fun row _ => moved_eq_iff_of_not_isPrefix hsource htarget row.1]
  simp only [List.isPrefixOf_iff_prefix, isPrefix_moved_iff hsource htarget]

end ReleaseMatch.Files.Tree
