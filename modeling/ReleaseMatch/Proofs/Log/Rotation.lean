import Mathlib.Data.Nat.Digits.Defs
import ReleaseMatch.Log.Sink
import ReleaseMatch.Proofs.Files.Moves
set_option autoImplicit false

/-!
# Files put aside

A line goes behind what is in the file. Once it would make the file reach its limit, the file is put aside and
begun anew with the line: each of the files put aside is one turn older then, and the oldest one is given up. A
file that cannot be put aside keeps the line from being written. There are three such cases: the number of files
to keep is a fraction, a directory stands where the oldest one has to go, or the path of an older one is too long.
Nothing is moved then.
-/
namespace ReleaseMatch.Log.FileTarget

open Files (Location Tree)

variable {t : FileTarget} {tree tree' : Tree} {line : String} {turn kept : ℕ}

/-! Decimal numbers -/

theorem toString_injective : Function.Injective (toString : ℕ → String) := by
  intro m n heq
  rw [Nat.toString_eq_ofList_toDigits, Nat.toString_eq_ofList_toDigits, String.ofList_inj] at heq
  have hvalue := congrArg (Nat.ofDigitChars 10 · 0) heq
  simpa only [Nat.ofDigitChars_toDigits (b := 10) (by decide) le_rfl] using hvalue

theorem utf8ByteSize_toString (n : ℕ) : (toString n).utf8ByteSize = n.repr.length := by
  have hdigits {ds : List Char} (h : ∀ d ∈ ds, d.isDigit = true) :
      (String.ofList ds).utf8ByteSize = ds.length := by
    induction ds with
    | nil => rfl
    | cons d ds ih =>
      obtain ⟨hd, hds⟩ := List.forall_mem_cons.1 h
      have hsize : d.utf8Size = 1 := by
        rw [Char.utf8Size_eq_one_iff, UInt32.le_iff_toNat_le]
        exact (Char.isDigit_iff_toNat.1 hd).2.trans (by decide)
      rw [String.ofList_cons, String.utf8ByteSize_append, String.utf8ByteSize_singleton, hsize, ih hds,
        List.length_cons, Nat.add_comm]
  rw [Nat.toString_eq_ofList_toDigits, Nat.repr_eq_ofList_toDigits, String.length_ofList]
  exact hdigits fun d hd => Nat.isDigit_of_mem_toDigits (by decide) (by decide) hd

theorem utf8ByteSize_toString_le {m n : ℕ} (h : m ≤ n) : (toString m).utf8ByteSize ≤ (toString n).utf8ByteSize := by
  rw [utf8ByteSize_toString, utf8ByteSize_toString]
  have hpos : 0 < n.repr.length := by
    rw [Nat.repr_eq_ofList_toDigits, String.length_ofList]
    exact Nat.length_toDigits_pos
  exact (Nat.length_repr_le_iff hpos).2 (h.trans_lt ((Nat.length_repr_le_iff hpos).1 le_rfl))

/-! The places of the older files -/

theorem numbered_injective (name : String) : Function.Injective (numbered name) := by
  have hlonger (turn : ℕ) : numbered name 0 ≠ numbered name (turn + 1) := by
    intro heq
    have hlength := congrArg String.length heq
    rw [numbered, numbered, String.length_append, String.length_append] at hlength
    have hdot : ".".length = 1 := rfl
    omega
  intro i j heq
  cases i with
  | zero =>
    cases j with
    | zero => rfl
    | succ j => exact absurd heq (hlonger j)
  | succ i =>
    cases j with
    | zero => exact absurd heq.symm (hlonger i)
    | succ j => exact toString_injective ((String.append_right_inj _).1 heq)

theorem utf8ByteSize_numbered_le (name : String) {i j : ℕ} (hle : i ≤ j) :
    (numbered name i).utf8ByteSize ≤ (numbered name j).utf8ByteSize := by
  cases j with
  | zero => rw [Nat.le_zero.1 hle]
  | succ j =>
    cases i with
    | zero =>
      simp only [numbered, String.utf8ByteSize_append]
      omega
    | succ i =>
      simp only [numbered, String.utf8ByteSize_append]
      exact Nat.add_le_add_left (utf8ByteSize_toString_le hle) _

theorem isTooLong_of_le {i j : ℕ} (hle : i ≤ j) (hlong : t.isTooLong i = true) : t.isTooLong j = true := by
  have hname := utf8ByteSize_numbered_le t.name hle
  have hpath := utf8ByteSize_numbered_le t.path hle
  unfold isTooLong asidePath at hlong ⊢
  simp only [Bool.or_eq_true, decide_eq_true_eq] at hlong ⊢
  omega

theorem aside_zero (h : t.location ≠ []) : t.aside 0 = t.location := by
  rw [aside, asideNames, List.getLast?_eq_some_getLast h]
  exact List.dropLast_concat_getLast h

theorem not_isPrefix_aside {i j : ℕ} (hne : i ≠ j) : ¬t.aside i <+: t.aside j :=
  Tree.not_isPrefix_sibling ((numbered_injective _).ne hne)

theorem aside_ne {i j : ℕ} (hne : i ≠ j) : t.aside i ≠ t.aside j :=
  fun heq => not_isPrefix_aside hne ⟨[], (List.append_nil _).trans heq⟩

/-- The file is there, and its path is not too long. -/
structure IsOpen (t : FileTarget) (tree : Tree) : Prop where
  file : ∃ bytes, tree.entry? t.location = some (.file bytes)
  short : t.isTooLong 0 = false

namespace IsOpen

theorem location_ne_nil (h : t.IsOpen tree) : t.location ≠ [] := by
  obtain ⟨bytes, hfile⟩ := h.file
  intro hnil
  rw [hnil, Tree.entry?] at hfile
  simp at hfile

theorem aside_zero_eq (h : t.IsOpen tree) : t.aside 0 = t.location := aside_zero h.location_ne_nil

theorem entryAside_zero (h : t.IsOpen tree) (tree' : Tree) : t.entryAside? tree' 0 = tree'.entry? t.location := by
  rw [entryAside?, if_neg (by simp [h.short]), h.aside_zero_eq]

end IsOpen

/-! Moving up -/

theorem entryAside_of_short (h : t.isTooLong turn = false) (tree : Tree) :
    t.entryAside? tree turn = tree.entry? (t.aside turn) :=
  if_neg (by simp [h])

theorem entryAside_congr (h : tree'.entry? (t.aside turn) = tree.entry? (t.aside turn)) :
    t.entryAside? tree' turn = t.entryAside? tree turn := by
  unfold entryAside?
  rw [h]

theorem short_of_entryAside (h : t.entryAside? tree turn ≠ none) : t.isTooLong turn = false := by
  unfold entryAside? at h
  split at h
  · exact absurd rfl h
  · next hshort => exact Bool.eq_false_iff.2 hshort

/-- What keeps the files of so many turns from being moved up. -/
inductive Obstructs (t : FileTarget) (tree : Tree) (kept : ℕ) : RotationFault → Prop
  | tooLong {turn : ℕ} (hturn : turn < kept) (hthere : t.entryAside? tree turn ≠ none)
      (hlong : t.isTooLong (turn + 1) = true) :
      Obstructs t tree kept (.tooLong (t.asidePath turn) (t.asidePath (turn + 1)))
  | directory {turn : ℕ} (hturn : turn + 1 = kept) (hthere : t.entryAside? tree turn ≠ none)
      (hdir : t.entryAside? tree (turn + 1) = some .dir) :
      Obstructs t tree kept (.directory (t.asidePath (turn + 1)))

/-- The file of one turn is moved up, in place of the one that was there. -/
structure Moved (t : FileTarget) (turn : ℕ) (tree tree' : Tree) : Prop where
  was : t.entryAside? tree turn ≠ none
  clear (f : RotationFault) : ¬t.Obstructs tree (turn + 1) f
  next : t.entryAside? tree' (turn + 1) = t.entryAside? tree turn
  gone : t.entryAside? tree' turn = none
  other (l : Location) : ¬t.aside turn <+: l → ¬t.aside (turn + 1) <+: l → tree'.entry? l = tree.entry? l

/-- What moving up the file of one turn comes to. -/
inductive Moves (t : FileTarget) (tree : Tree) (turn : ℕ) : Except RotationFault Tree → Prop
  | nothing (hnone : t.entryAside? tree turn = none) : Moves t tree turn (.ok tree)
  | obstructed {f : RotationFault} (h : t.Obstructs tree (turn + 1) f) : Moves t tree turn (.error f)
  | moved {tree' : Tree} (h : t.Moved turn tree tree') : Moves t tree turn (.ok tree')

theorem moved_of_rename {tree₀ : Tree} (hthere : t.entryAside? tree turn ≠ none)
    (hclear : ∀ f, ¬t.Obstructs tree (turn + 1) f) (hshort : t.isTooLong (turn + 1) = false)
    (hfree : tree₀.entry? (t.aside (turn + 1)) = none)
    (hsame : ∀ l, l ≠ t.aside (turn + 1) → tree₀.entry? l = tree.entry? l) :
    t.Moved turn tree (tree₀.rename (t.aside turn) (t.aside (turn + 1))) := by
  have hne : numbered (t.location.getLast?.getD "") turn ≠ numbered (t.location.getLast?.getD "") (turn + 1) :=
    (numbered_injective _).ne (Nat.succ_ne_self turn).symm
  refine ⟨hthere, hclear, ?_, ?_, fun l hsource htarget => ?_⟩
  · rw [entryAside_of_short hshort, entryAside_of_short (short_of_entryAside hthere)]
    exact (Tree.entry_rename_target hfree).trans (hsame _ (aside_ne (Nat.succ_ne_self turn).symm))
  · rw [entryAside_of_short (short_of_entryAside hthere)]
    exact Tree.entry_rename_source hne
  · refine (Tree.entry_rename_of_not_isPrefix hsource htarget).trans (hsame l ?_)
    rintro rfl
    exact htarget (List.prefix_refl _)

theorem moves_moveUp (t : FileTarget) (tree : Tree) (turn : ℕ) : t.Moves tree turn (t.moveUp tree turn) := by
  rw [moveUp]
  cases hentry : t.entryAside? tree turn with
  | none => exact .nothing hentry
  | some e =>
    have hthere : t.entryAside? tree turn ≠ none := by simp [hentry]
    dsimp only
    cases hlong : t.isTooLong (turn + 1) with
    | true => exact .obstructed (.tooLong (Nat.lt_succ_self _) hthere hlong)
    | false =>
      have hclear (hdir : tree.entry? (t.aside (turn + 1)) ≠ some .dir) (f : RotationFault) :
          ¬t.Obstructs tree (turn + 1) f := by
        rintro (⟨hturn, -, hlong'⟩ | ⟨hturn, -, hdir'⟩)
        · rw [isTooLong_of_le hturn hlong'] at hlong
          exact absurd hlong (by simp)
        · rw [hturn, entryAside_of_short hlong] at hdir'
          exact hdir hdir'
      rw [if_neg Bool.false_ne_true]
      cases hnext : tree.entry? (t.aside (turn + 1)) with
      | none => exact .moved (moved_of_rename hthere (hclear (by simp [hnext])) hlong hnext fun l _ => rfl)
      | some e' =>
        cases e' with
        | dir => exact .obstructed (.directory rfl hthere ((entryAside_of_short hlong tree).trans hnext))
        | file bytes =>
          have hdir : tree.entry? (t.aside (turn + 1)) ≠ some .dir := by simp [hnext]
          exact .moved (moved_of_rename hthere (hclear hdir) hlong (Tree.entry_remove_self hdir)
            fun l hl => Tree.entry_remove_of_ne hl)

/-- Each of so many files is one turn older than before, and the oldest one gives way. -/
structure Ages (t : FileTarget) (kept : ℕ) (tree tree' : Tree) : Prop where
  younger (turn : ℕ) : turn + 1 < kept → t.entryAside? tree' (turn + 1) = t.entryAside? tree turn
  oldest (turn : ℕ) : turn + 1 = kept →
    t.entryAside? tree' (turn + 1) = (t.entryAside? tree turn).or (t.entryAside? tree (turn + 1))
  other (l : Location) : (∀ turn ≤ kept, ¬t.aside turn <+: l) → tree'.entry? l = tree.entry? l

theorem Ages.entryAside_of_lt (h : t.Ages kept tree tree') (hturn : kept < turn) :
    t.entryAside? tree' turn = t.entryAside? tree turn :=
  entryAside_congr (h.other _ fun _ hle => not_isPrefix_aside (hle.trans_lt hturn).ne)

/-- What moving up the files of so many turns comes to. -/
inductive MovesAll (t : FileTarget) (tree : Tree) (kept : ℕ) : Tree × Option RotationFault → Prop
  | obstructed {f : RotationFault} (h : t.Obstructs tree kept f) : MovesAll t tree kept (tree, some f)
  | moved {tree' : Tree} (hclear : ∀ f, ¬t.Obstructs tree kept f)
      (hfirst : t.entryAside? tree' 0 = if kept = 0 then t.entryAside? tree 0 else none)
      (hages : t.Ages kept tree tree') : MovesAll t tree kept (tree', none)

theorem MovesAll.of_nothing {r : Tree × Option RotationFault} (hnone : t.entryAside? tree kept = none)
    (h : t.MovesAll tree kept r) : t.MovesAll tree (kept + 1) r := by
  cases h with
  | obstructed h =>
    cases h with
    | tooLong hturn hthere hlong => exact .obstructed (.tooLong (Nat.lt_succ_of_lt hturn) hthere hlong)
    | directory hturn hthere hdir =>
      rw [hturn, hnone] at hdir
      exact absurd hdir (by simp)
  | moved hclear hfirst hages =>
    refine .moved ?_ ?_ ⟨fun turn hturn => ?_, fun turn hturn => ?_, fun l hl => ?_⟩
    · rintro f (⟨hturn, hthere, hlong⟩ | ⟨hturn, hthere, -⟩)
      · obtain rfl | hlt := (Nat.le_of_lt_succ hturn).eq_or_lt
        · exact hthere hnone
        · exact hclear _ (.tooLong hlt hthere hlong)
      · obtain rfl := Nat.succ.inj hturn
        exact hthere hnone
    · rw [hfirst, if_neg (Nat.succ_ne_zero kept)]
      split
      · next hzero => rwa [hzero] at hnone
      · rfl
    · obtain heq | hlt := (Nat.le_of_lt_succ hturn).eq_or_lt
      · rw [hages.oldest turn heq, heq, hnone, Option.or_none]
      · exact hages.younger turn hlt
    · obtain rfl := Nat.succ.inj hturn
      rw [hages.entryAside_of_lt (Nat.lt_succ_self _), hnone, Option.none_or]
    · exact hages.other l fun turn hle => hl turn (hle.trans (Nat.le_succ _))

/-- Once a file has been moved up, its place is free, and the path of no younger one can be too long. -/
theorem MovesAll.of_moved {tree₁ : Tree} {r : Tree × Option RotationFault} (hmoved : t.Moved kept tree tree₁)
    (h : t.MovesAll tree₁ kept r) : t.MovesAll tree (kept + 1) r := by
  have hsame {turn : ℕ} (hlt : turn < kept) : t.entryAside? tree₁ turn = t.entryAside? tree turn :=
    entryAside_congr (hmoved.other _ (not_isPrefix_aside hlt.ne') (not_isPrefix_aside (by omega)))
  cases h with
  | obstructed h =>
    cases h with
    | tooLong hturn _ hlong =>
      have hshort := short_of_entryAside hmoved.was
      rw [isTooLong_of_le hturn hlong] at hshort
      exact absurd hshort (by simp)
    | directory hturn _ hdir =>
      rw [hturn, hmoved.gone] at hdir
      exact absurd hdir (by simp)
  | moved _ hfirst hages =>
    refine .moved hmoved.clear ?_ ⟨fun turn hturn => ?_, fun turn hturn => ?_, fun l hl => ?_⟩
    · rw [hfirst, if_neg (Nat.succ_ne_zero kept)]
      split
      · next hzero => exact hzero ▸ hmoved.gone
      · rfl
    · obtain heq | hlt := (Nat.le_of_lt_succ hturn).eq_or_lt
      · rw [hages.oldest turn heq, heq, hmoved.gone, Option.or_none, hsame (by omega)]
      · rw [hages.younger turn hlt, hsame (by omega)]
    · obtain rfl := Nat.succ.inj hturn
      obtain ⟨e, he⟩ := Option.ne_none_iff_exists'.1 hmoved.was
      rw [hages.entryAside_of_lt (Nat.lt_succ_self _), hmoved.next, he, Option.some_or]
    · rw [hages.other l fun turn hle => hl turn (hle.trans (Nat.le_succ _))]
      exact hmoved.other l (hl kept (Nat.le_succ _)) (hl (kept + 1) le_rfl)

/-- The induction is on the turns, the oldest first. -/
theorem movesAll_moveAll (t : FileTarget) (tree : Tree) (kept : ℕ) : t.MovesAll tree kept (t.moveAll tree kept) := by
  induction kept generalizing tree with
  | zero =>
    refine .moved ?_ rfl ⟨fun turn h => absurd h (by omega), fun turn h => absurd h (by omega), fun _ _ => rfl⟩
    rintro f (⟨hturn, -, -⟩ | ⟨hturn, -, -⟩)
    · exact absurd hturn (Nat.not_lt_zero _)
    · exact absurd hturn (Nat.succ_ne_zero _)
  | succ kept ih =>
    have hstep := t.moves_moveUp tree kept
    rw [moveAll]
    generalize t.moveUp tree kept = r at hstep
    cases hstep with
    | nothing hnone => exact (ih tree).of_nothing hnone
    | obstructed h => exact .obstructed h
    | @moved tree₁ hmoved => exact (ih tree₁).of_moved hmoved

/-! Writing -/

structure Appends (t : FileTarget) (tree : Tree) (line : String) (tree' : Tree) : Prop where
  file : tree'.entry? t.location = some (.file (tree.bytesAt t.location ++ Text.Utf8.encode line.toList))
  other (l : Location) : l ≠ t.location → tree'.entry? l = tree.entry? l

/-- What keeps a full file from being put aside. -/
inductive Jams (t : FileTarget) (tree : Tree) : RotationFault → Prop
  | notWhole (h : keptAside? t.backupCount = none) : Jams t tree .notWhole
  | obstructed {kept : ℕ} {f : RotationFault} (hkept : keptAside? t.backupCount = some kept)
      (h : t.Obstructs tree kept f) : Jams t tree f

/-- What writing a line comes to: it goes to the end of the file, or into a new one; or the file cannot be put
aside, and all stays as it is. -/
inductive Lands (t : FileTarget) (tree : Tree) (line : String) : Tree × Option RotationFault → Prop
  | appended {tree' : Tree} (hroom : t.isFull ((tree.bytesAt t.location).length + line.length) = false ∨
      keptAside? t.backupCount = some 0) (h : t.Appends tree line tree') : Lands t tree line (tree', none)
  | rotated {kept : ℕ} {tree' : Tree} (hfull : t.isFull ((tree.bytesAt t.location).length + line.length) = true)
      (hkept : keptAside? t.backupCount = some kept) (hpos : 0 < kept) (hclear : ∀ f, ¬t.Obstructs tree kept f)
      (hfile : tree'.entry? t.location = some (.file (Text.Utf8.encode line.toList)))
      (hages : t.Ages kept tree tree') : Lands t tree line (tree', none)
  | lost {f : RotationFault} (hfull : t.isFull ((tree.bytesAt t.location).length + line.length) = true)
      (h : t.Jams tree f) : Lands t tree line (tree, some f)

theorem appends_append (h : tree.entry? t.location ≠ some .dir) (line : String) :
    t.Appends tree line (t.append tree line) :=
  ⟨Tree.entry_put_self h _, fun _ hl => Tree.entry_put_of_ne _ _ hl⟩

/-- The file is begun anew once the older ones have been moved up. -/
theorem IsOpen.lands_of_moved (hopen : t.IsOpen tree) (hpos : 0 < kept)
    (hfull : t.isFull ((tree.bytesAt t.location).length + line.length) = true)
    (hkept : keptAside? t.backupCount = some kept) (hclear : ∀ f, ¬t.Obstructs tree kept f)
    (hfirst : t.entryAside? tree' 0 = none) (hages : t.Ages kept tree tree') :
    t.Lands tree line (t.append (tree'.put t.location (.file [])) line, none) := by
  rw [hopen.entryAside_zero] at hfirst
  have hnew : Tree.entry? (tree'.put t.location (.file [])) t.location = some (.file []) :=
    Tree.entry_put_self (by simp [hfirst]) _
  have hrest {l : Location} (hl : l ≠ t.location) :
      Tree.entry? (tree'.put t.location (.file [])) l = tree'.entry? l := Tree.entry_put_of_ne _ _ hl
  generalize tree'.put t.location (.file []) = tree₁ at hnew hrest ⊢
  have happend : t.Appends tree₁ line (t.append tree₁ line) := appends_append (by simp [hnew]) line
  have hplace (turn : ℕ) : t.entryAside? (t.append tree₁ line) (turn + 1) = t.entryAside? tree' (turn + 1) := by
    have hne : t.aside (turn + 1) ≠ t.location := hopen.aside_zero_eq ▸ aside_ne (Nat.succ_ne_zero turn)
    exact entryAside_congr ((happend.other _ hne).trans (hrest hne))
  refine .rotated hfull hkept hpos hclear ?_ ⟨fun turn hturn => ?_, fun turn hturn => ?_, fun l hl => ?_⟩
  · rw [happend.file, Tree.bytesAt, hnew, List.nil_append]
  · rw [hplace, hages.younger turn hturn]
  · rw [hplace, hages.oldest turn hturn]
  · have hne : l ≠ t.location := by
      rintro rfl
      exact hl 0 (Nat.zero_le _) (hopen.aside_zero_eq ▸ List.prefix_refl _)
    rw [happend.other l hne, hrest hne, hages.other l hl]

theorem IsOpen.lands_write (hopen : t.IsOpen tree) (line : String) : t.Lands tree line (t.write tree line) := by
  have happend : t.Appends tree line (t.append tree line) := by
    obtain ⟨bytes, hfile⟩ := hopen.file
    exact appends_append (by simp [hfile]) line
  rw [write]
  cases hfull : t.isFull ((tree.bytesAt t.location).length + line.length) with
  | false => exact .appended (.inl hfull) happend
  | true =>
    rw [if_pos rfl]
    cases hkept : keptAside? t.backupCount with
    | none => exact .lost hfull (.notWhole hkept)
    | some kept =>
      dsimp only
      rw [rotate]
      by_cases hzero : kept = 0
      · rw [if_pos hzero]
        exact .appended (.inr (hzero ▸ hkept)) happend
      · rw [if_neg hzero]
        have hall := t.movesAll_moveAll tree kept
        generalize t.moveAll tree kept = r at hall
        cases hall with
        | obstructed h => exact .lost hfull (.obstructed hkept h)
        | moved hclear hfirst hages =>
          rw [if_neg hzero] at hfirst
          exact hopen.lands_of_moved (Nat.pos_of_ne_zero hzero) hfull hkept hclear hfirst hages

theorem IsOpen.of_lands (hopen : t.IsOpen tree) {r : Tree × Option RotationFault} (h : t.Lands tree line r) :
    t.IsOpen r.1 where
  file := by
    cases h with
    | appended _ h => exact ⟨_, h.file⟩
    | rotated _ _ _ _ hfile => exact ⟨_, hfile⟩
    | lost => exact hopen.file
  short := hopen.short

end ReleaseMatch.Log.FileTarget
