import Mathlib.Data.List.Forall2
import ReleaseMatch.Proofs.Result
import ReleaseMatch.Yaml.Construct
set_option autoImplicit false

/-!
# Nodes with an open place

A collection of which one part is left open: the value under a key that is not written again behind it, or an
item. What is filled in shows in the value of the collection at that place alone, and whether a fault comes up
elsewhere does not depend on it.
-/
namespace ReleaseMatch.Yaml

/-- The value under a key, or an item, of a collection. -/
inductive Frame
  | entry (before : List (Node × Node)) (key : String) (keyMark : Mark) (after : List (Node × Node)) (mark : Mark)
  | item (before after : List Node) (mark : Mark)

namespace Frame

def fill : Frame → Node → Node
  | .entry before key keyMark after mark, n =>
    .mapping .map (before ++ (.scalar .str key keyMark, n) :: after) mark
  | .item before after mark, n => .sequence .seq (before ++ n :: after) mark

theorem waiting_fill (f : Frame) (n : Node) : waiting (f.fill n) = .ok [f.fill n] := by
  cases f <;> rfl

end Frame

/-! ## Faults -/

/-- Nodes that differ at most in a place at which neither of them has to wait differently. -/
inductive Alike : Node → Node → Prop
  | refl (n : Node) : Alike n n
  | leaf (f : Frame) {n n' : Node} (h : waiting n = waiting n') : Alike (f.fill n) (f.fill n')
  | fill (f : Frame) {n n' : Node} (h : Alike n n') : Alike (f.fill n) (f.fill n')

def AlikeResults : Result (List Node) → Result (List Node) → Prop
  | .ok ns, .ok ms => List.Forall₂ Alike ns ms
  | .error f, .error g => f = g
  | _, _ => False

theorem forall₂_alike_refl (ns : List Node) : List.Forall₂ Alike ns ns :=
  List.forall₂_same.2 fun n _ => .refl n

theorem AlikeResults.refl (x : Result (List Node)) : AlikeResults x x := by
  cases x with
  | ok ns => exact forall₂_alike_refl ns
  | error f => exact rfl

theorem AlikeResults.append {x x' y y' : Result (List Node)} (h : AlikeResults x x') (h' : AlikeResults y y') :
    AlikeResults (x >>= fun ns => y >>= fun ms => pure (ns ++ ms))
      (x' >>= fun ns => y' >>= fun ms => pure (ns ++ ms)) := by
  cases x with
  | error f =>
    cases x' with
    | error g => exact h
    | ok ns => exact h.elim
  | ok ns =>
    cases x' with
    | error g => exact h.elim
    | ok ns' =>
      cases y with
      | error f =>
        cases y' with
        | error g => exact h'
        | ok ms => exact h'.elim
      | ok ms =>
        cases y' with
        | error g => exact h'.elim
        | ok ms' => exact List.rel_append h h'

theorem AlikeResults.bind {x x' : Result (List Node)} {α : Type} {f : List Node → Result α} (h : AlikeResults x x')
    (hf : ∀ ns ns', List.Forall₂ Alike ns ns' → f ns = f ns') : x >>= f = x' >>= f := by
  cases x with
  | error g =>
    cases x' with
    | error g' => exact congrArg Except.error h
    | ok ns => exact h.elim
  | ok ns =>
    cases x' with
    | error g => exact h.elim
    | ok ns' => exact hf ns ns' h

theorem Alike.waiting {n n' : Node} (h : Alike n n') : AlikeResults (waiting n) (waiting n') := by
  cases h with
  | refl => exact .refl _
  | leaf f h =>
    rw [f.waiting_fill, f.waiting_fill]
    exact .cons (.leaf f h) .nil
  | fill f h =>
    rw [f.waiting_fill, f.waiting_fill]
    exact .cons (.fill f h) .nil

section

variable {before after : List (Node × Node)} {key n n' : Node}

theorem takenNodes_entry (mark : Mark) (hkey : key.tag ≠ .merge) :
    takenNodes mark (before ++ (key, n) :: after) = takenNodes mark (before ++ after) := by
  induction before with
  | nil => rw [List.nil_append, takenNodes, if_neg hkey]; rfl
  | cons e before ih =>
    obtain ⟨k, v⟩ := e
    rw [List.cons_append, List.cons_append, takenNodes, takenNodes, ih]

theorem waitingEntries_append (mark : Mark) (xs ys : List (Node × Node)) :
    waitingEntries mark (xs ++ ys) =
      (waitingEntries mark xs >>= fun ns => waitingEntries mark ys >>= fun ms => pure (ns ++ ms)) := by
  induction xs with
  | nil =>
    rw [List.nil_append]
    cases waitingEntries mark ys <;> rfl
  | cons e xs ih =>
    obtain ⟨k, v⟩ := e
    rw [List.cons_append, waitingEntries, waitingEntries, ih]
    cases waiting k with
    | error f => rfl
    | ok ks =>
      simp only [bind, Except.bind]
      split
      · cases waiting v with
        | error f => rfl
        | ok first =>
          cases waitingEntries mark xs with
          | error f => rfl
          | ok more =>
            cases waitingEntries mark ys with
            | error f => rfl
            | ok rest => exact congrArg Except.ok (List.append_assoc ..).symm
      · rfl

theorem waitingItems_append (xs ys : List Node) :
    waitingItems (xs ++ ys) =
      (waitingItems xs >>= fun ns => waitingItems ys >>= fun ms => pure (ns ++ ms)) := by
  induction xs with
  | nil =>
    rw [List.nil_append]
    cases waitingItems ys <;> rfl
  | cons n xs ih =>
    rw [List.cons_append, waitingItems, waitingItems, ih]
    cases waiting n with
    | error f => rfl
    | ok first =>
      cases waitingItems xs with
      | error f => rfl
      | ok more =>
        cases waitingItems ys with
        | error f => rfl
        | ok rest => exact congrArg Except.ok (List.append_assoc ..).symm

theorem ownNodes_entry {key : String} {keyMark : Mark} :
    ownNodes (before ++ (.scalar .str key keyMark, n) :: after) =
      ownNodes before ++ (.scalar .str key keyMark, n) :: ownNodes after := by
  rw [ownNodes, List.filter_append, List.filter_cons_of_pos (by rfl), List.map_append, List.map_cons]
  rfl

end

/-- What is inside of a frame: what waits in front of the open place, there, and behind it. -/
theorem Frame.inside_fill (f : Frame) : ∃ x y : Result (List Node), ∀ n, inside (f.fill n) =
    (x >>= fun ns => (waiting n >>= fun ms => y >>= fun ks => pure (ms ++ ks)) >>= fun ms => pure (ns ++ ms)) := by
  cases f with
  | entry before key keyMark after mark =>
    cases htaken : takenNodes mark (before ++ after) with
    | error f =>
      refine ⟨.error f, .ok [], fun n => ?_⟩
      change (takenNodes mark _ >>= _) = _
      rw [takenNodes_entry mark (by simp [Node.tag]), htaken]
      rfl
    | ok taken =>
      refine ⟨waitingEntries mark (taken ++ ownNodes before), waitingEntries mark (ownNodes after), fun n => ?_⟩
      change (takenNodes mark _ >>= _) = _
      rw [takenNodes_entry mark (by simp [Node.tag]), htaken]
      change waitingEntries mark (taken ++ ownNodes _) = _
      rw [ownNodes_entry, ← List.append_assoc, waitingEntries_append]
      rfl
  | item before after mark =>
    refine ⟨waitingItems before, waitingItems after, fun n => ?_⟩
    change waitingItems (before ++ n :: after) = _
    rw [waitingItems_append]
    rfl

theorem Frame.alike_inside (f : Frame) {n n' : Node} (h : AlikeResults (waiting n) (waiting n')) :
    AlikeResults (inside (f.fill n)) (inside (f.fill n')) := by
  obtain ⟨x, y, hinside⟩ := f.inside_fill
  rw [hinside, hinside]
  exact (AlikeResults.refl x).append (h.append (.refl y))

theorem Alike.inside {n n' : Node} (h : Alike n n') : AlikeResults (inside n) (inside n') := by
  cases h with
  | refl => exact .refl _
  | leaf f h => exact f.alike_inside (h ▸ .refl _)
  | fill f h => exact f.alike_inside h.waiting

theorem alike_insideAll {ns ms : List Node} (h : List.Forall₂ Alike ns ms) :
    AlikeResults (insideAll ns) (insideAll ms) := by
  induction h with
  | nil => exact .refl _
  | cons h _ ih => exact h.inside.append ih

theorem checkGenerations_alike (fuel : Nat) {ns ms : List Node} (h : List.Forall₂ Alike ns ms) :
    checkGenerations fuel ns = checkGenerations fuel ms := by
  induction fuel generalizing ns ms with
  | zero => rfl
  | succ fuel ih =>
    cases h with
    | nil => rfl
    | cons h hs => exact (alike_insideAll (.cons h hs)).bind fun _ _ => ih

/-! ## Nested frames -/

def fillAll (fs : List Frame) (n : Node) : Node := fs.foldr Frame.fill n

theorem alike_fillAll (fs : List Frame) {f : Frame} {n n' : Node} (h : waiting n = waiting n') :
    Alike (fillAll (fs ++ [f]) n) (fillAll (fs ++ [f]) n') := by
  induction fs with
  | nil => exact .leaf f h
  | cons g fs ih => exact .fill g ih

theorem Frame.of_inside {f : Frame} {n : Node} {ms : List Node} (h : inside (f.fill n) = .ok ms) :
    ∃ ns, waiting n = .ok ns ∧ ns ⊆ ms := by
  obtain ⟨x, y, hinside⟩ := f.inside_fill
  rw [hinside] at h
  obtain ⟨front, -, h⟩ := bind_eq_ok.1 h
  obtain ⟨both, hboth, h⟩ := bind_eq_ok.1 h
  obtain ⟨ns, hns, hboth⟩ := bind_eq_ok.1 hboth
  obtain ⟨back, -, hboth⟩ := bind_eq_ok.1 hboth
  obtain rfl := Except.ok.inj hboth
  obtain rfl := Except.ok.inj h
  exact ⟨ns, hns, fun n hn => List.mem_append_right _ (List.mem_append_left _ hn)⟩

theorem of_insideAll {ns ms : List Node} (h : insideAll ns = .ok ms) {n : Node} (hn : n ∈ ns) :
    ∃ ks, inside n = .ok ks ∧ ks ⊆ ms := by
  induction ns generalizing ms with
  | nil => cases hn
  | cons m ns ih =>
    obtain ⟨first, hfirst, h⟩ := bind_eq_ok.1 h
    obtain ⟨more, hmore, h⟩ := bind_eq_ok.1 h
    obtain rfl := Except.ok.inj h
    rcases List.mem_cons.1 hn with rfl | hn
    · exact ⟨first, hfirst, List.subset_append_left _ _⟩
    · obtain ⟨ks, hks, hsubset⟩ := ih hmore hn
      exact ⟨ks, hks, fun k hk => List.mem_append_right _ (hsubset hk)⟩

/-- A node inside of frames is looked at in the generation after the innermost one. -/
theorem waiting_of_checkGenerations (fs : List Frame) {f : Frame} {n : Node} {fuel : Nat} {ns : List Node}
    (hfuel : fs.length < fuel) (hmem : fillAll (f :: fs) n ∈ ns) (h : checkGenerations fuel ns = .ok ()) :
    ∃ ms, waiting n = .ok ms := by
  induction fs generalizing f fuel ns with
  | nil =>
    obtain ⟨fuel, rfl⟩ := Nat.exists_eq_succ_of_ne_zero (Nat.ne_zero_of_lt hfuel)
    obtain ⟨m, ns, rfl⟩ := List.exists_cons_of_ne_nil (List.ne_nil_of_mem hmem)
    obtain ⟨ms, hms, -⟩ := bind_eq_ok.1 h
    obtain ⟨ks, hks, -⟩ := of_insideAll hms hmem
    obtain ⟨ms, hms, -⟩ := f.of_inside hks
    exact ⟨ms, hms⟩
  | cons g fs ih =>
    obtain ⟨fuel, rfl⟩ := Nat.exists_eq_succ_of_ne_zero (Nat.ne_zero_of_lt hfuel)
    obtain ⟨m, ns, rfl⟩ := List.exists_cons_of_ne_nil (List.ne_nil_of_mem hmem)
    obtain ⟨ms, hms, h⟩ := bind_eq_ok.1 h
    obtain ⟨ks, hks, hsubset⟩ := of_insideAll hms hmem
    obtain ⟨inner, hinner, hsubset'⟩ := f.of_inside hks
    have hwaiting : waiting (fillAll (g :: fs) n) = .ok [fillAll (g :: fs) n] := g.waiting_fill _
    obtain rfl := Except.ok.inj (hwaiting.symm.trans hinner)
    exact ih (Nat.lt_of_succ_lt_succ hfuel) (hsubset (hsubset' List.mem_cons_self)) h

/-! ## Values -/

theorem sameKey_text_iff {k : Value} {key : String} : sameKey k (.text key) = true ↔ k = .text key := by
  cases k <;> simp [sameKey, sameKey.numeric?]

theorem text_sameKey_iff {k : Value} {key : String} : sameKey (.text key) k = true ↔ k = .text key := by
  rw [@eq_comm _ k]
  cases k <;> simp [sameKey, sameKey.numeric?]

def WithoutKey (key : String) (entries : List (Value × Value)) : Prop := ∀ e ∈ entries, e.1 ≠ .text key

section

variable {key : String}

/-- An entry under a text goes to one place, whatever its value is. -/
theorem exists_insertEntry (key : String) (entries : List (Value × Value)) : ∃ front back, WithoutKey key front ∧
    ∀ v, insertEntry entries (.text key) v = front ++ (.text key, v) :: back := by
  induction entries with
  | nil => exact ⟨[], [], fun e he => absurd he List.not_mem_nil, fun v => rfl⟩
  | cons e rest ih =>
    obtain ⟨k, w⟩ := e
    by_cases hk : k = .text key
    · refine ⟨[], rest, fun e he => absurd he List.not_mem_nil, fun v => ?_⟩
      rw [insertEntry, if_pos (sameKey_text_iff.2 hk), hk]
      rfl
    · obtain ⟨front, back, hfront, hback⟩ := ih
      refine ⟨(k, w) :: front, back, List.forall_mem_cons.2 ⟨hk, hfront⟩, fun v => ?_⟩
      rw [insertEntry, if_neg (mt sameKey_text_iff.1 hk), hback v]
      rfl

theorem exists_insertEntry_other {front : List (Value × Value)} (back : List (Value × Value)) {k : Value} (hk : k ≠ .text key)
    (hfront : WithoutKey key front) (w : Value) : ∃ front' back', WithoutKey key front' ∧
      ∀ v, insertEntry (front ++ (.text key, v) :: back) k w = front' ++ (.text key, v) :: back' := by
  induction front with
  | nil =>
    refine ⟨[], insertEntry back k w, hfront, fun v => ?_⟩
    rw [List.nil_append, insertEntry, if_neg (mt text_sameKey_iff.1 hk)]
    rfl
  | cons e front ih =>
    obtain ⟨k', v'⟩ := e
    obtain ⟨hk', hfront⟩ := List.forall_mem_cons.1 hfront
    by_cases hsame : sameKey k' k = true
    · refine ⟨(k', w) :: front, back, List.forall_mem_cons.2 ⟨hk', hfront⟩, fun v => ?_⟩
      rw [List.cons_append, insertEntry, if_pos hsame]
      rfl
    · obtain ⟨front', back', hfront', hback'⟩ := ih hfront
      refine ⟨(k', v') :: front', back', List.forall_mem_cons.2 ⟨hk', hfront'⟩, fun v => ?_⟩
      rw [List.cons_append, insertEntry, if_neg hsame, hback' v]
      rfl

/-- The last entry under a text has one place in the mapping, whatever its value is. -/
theorem exists_dictOf (before : List (Value × Value)) {after : List (Value × Value)}
    (hafter : WithoutKey key after) : ∃ front back, WithoutKey key front ∧
      ∀ v, dictOf (before ++ (.text key, v) :: after) = front ++ (.text key, v) :: back := by
  have hfrom : ∀ {front : List (Value × Value)} (back : List (Value × Value)), WithoutKey key front → ∃ front' back',
      WithoutKey key front' ∧ ∀ v, after.foldl (fun d e => insertEntry d e.1 e.2)
        (front ++ (.text key, v) :: back) = front' ++ (.text key, v) :: back' := by
    induction after with
    | nil => exact fun {front} back hfront => ⟨front, back, hfront, fun v => rfl⟩
    | cons e after ih =>
      intro front back hfront
      obtain ⟨he, hafter⟩ := List.forall_mem_cons.1 hafter
      obtain ⟨front', back', hfront', hstep⟩ := exists_insertEntry_other back he hfront e.2
      obtain ⟨front'', back'', hfront'', hrest⟩ := ih hafter back' hfront'
      exact ⟨front'', back'', hfront'', fun v => by rw [List.foldl_cons, hstep v, hrest v]⟩
  obtain ⟨front, back, hfront, hinsert⟩ := exists_insertEntry key (dictOf before)
  obtain ⟨front', back', hfront', hrest⟩ := hfrom back hfront
  refine ⟨front', back', hfront', fun v => ?_⟩
  rw [← hrest v, ← hinsert v, dictOf, List.foldl_append, List.foldl_cons]
  rfl

end

theorem itemValues_append (xs ys : List Node) : itemValues (xs ++ ys) = itemValues xs ++ itemValues ys := by
  induction xs with
  | nil => rfl
  | cons n xs ih => rw [List.cons_append, itemValues, itemValues, ih]; rfl

theorem ownEntries_append (xs ys : List (Node × Node)) : ownEntries (xs ++ ys) = ownEntries xs ++ ownEntries ys := by
  induction xs with
  | nil => rfl
  | cons e xs ih =>
    obtain ⟨k, v⟩ := e
    rw [List.cons_append, ownEntries, ownEntries, ih]
    split
    · rfl
    · split <;> rfl

theorem mergedEntries_entry {before after : List (Node × Node)} {key n : Node} (hkey : key.tag ≠ .merge) :
    mergedEntries (before ++ (key, n) :: after) = mergedEntries (before ++ after) := by
  induction before with
  | nil => rw [List.nil_append, mergedEntries, if_neg hkey]; rfl
  | cons e before ih =>
    obtain ⟨k, v⟩ := e
    rw [List.cons_append, List.cons_append, mergedEntries, mergedEntries, ih]

theorem toValue_item (before after : List Node) (mark : Mark) (n : Node) :
    ((Frame.item before after mark).fill n).toValue =
      .list (itemValues before ++ n.toValue :: itemValues after) := by
  rw [Frame.fill, Node.toValue, if_pos rfl, itemValues_append]
  rfl

theorem toValue_entry (before : List (Node × Node)) {key : String} (keyMark : Mark) {after : List (Node × Node)}
    (mark : Mark) (hafter : WithoutKey key (ownEntries after)) : ∃ front back, WithoutKey key front ∧
      ∀ n, ((Frame.entry before key keyMark after mark).fill n).toValue =
        .map (front ++ (.text key, n.toValue) :: back) := by
  obtain ⟨front, back, hfront, hdict⟩ :=
    exists_dictOf (mergedEntries (before ++ after) ++ ownEntries before) hafter
  refine ⟨front, back, hfront, fun n => ?_⟩
  change Value.map (dictOf (mergedEntries _ ++ ownEntries _)) = _
  rw [mergedEntries_entry (by simp [Node.tag]), ownEntries_append, ← List.append_assoc, ← hdict n.toValue]
  rfl

end ReleaseMatch.Yaml
