import ReleaseMatch.Proofs.Reading.Follow
set_option autoImplicit false

/-!
# The numbers of groups

A reader gives numbers to groups as they are opened, keeps the names that stand for them, and counts
on in the alternatives of a reset from where the first one began. No number is ever above the highest
one counted to.
-/
namespace ReleaseMatch.Pattern

namespace Reader

variable {r s e : Reader} {rest : List Char}

theorem readAll_keeps {P : Reader → Prop}
    (hact : ∀ {r s : Reader} {action : Action} {rest : List Char}, P r → r.act action rest = some s → P s)
    {fuel : Nat} (hread : readAll fuel r = .ok e) (h : P r) : P e := by
  induction fuel generalizing r with
  | zero =>
    obtain rfl := Except.ok.inj hread
    exact h
  | succ fuel ih =>
    rw [readAll] at hread
    split at hread
    · split at hread
      · obtain rfl := Except.ok.inj hread
        exact h
      · cases hread
    · obtain ⟨r1, hr1, hread⟩ := bind_eq_ok.1 hread
      obtain ⟨action, beyond, -, haction⟩ := readChar_eq_ok_iff.1 hr1
      exact ih hread (hact h haction)

/-! Fresh numbers -/

def namesFrom (names : List (String × Nat)) (n : Nat) : List (String × Nat) :=
  names.filter (n ≤ ·.2)

theorem length_namesFrom_succ {names : List (String × Nat)} {n : Nat}
    (h : names.any (·.2 = n) = true) :
    (namesFrom names (n + 1)).length < (namesFrom names n).length := by
  obtain ⟨entry, hentry, heq⟩ := List.any_eq_true.1 h
  obtain rfl : entry.2 = n := of_decide_eq_true heq
  have hfilter : namesFrom names (entry.2 + 1) =
      (namesFrom names entry.2).filter (entry.2 + 1 ≤ ·.2) := by
    rw [namesFrom, namesFrom, List.filter_filter]
    refine List.filter_congr fun p _ => ?_
    by_cases hp : entry.2 + 1 ≤ p.2
    · simp [hp, Nat.le_of_succ_le hp]
    · simp [hp]
  rw [hfilter]
  refine List.length_filter_lt_length_iff_exists.2 ⟨entry, ?_, by simp⟩
  exact List.mem_filter.2 ⟨hentry, by simp⟩

theorem le_freshNumber (names : List (String × Nat)) (fuel n : Nat) : n ≤ freshNumber names fuel n := by
  induction fuel generalizing n with
  | zero => exact Nat.le_refl n
  | succ fuel ih =>
    rw [freshNumber]
    split
    · exact Nat.le_of_succ_le (ih (n + 1))
    · exact Nat.le_refl n

/-- Where the names that matter are the same, but for an offset of their numbers, so are the fresh
numbers. A bound on the number of steps that is met by no run makes no difference. -/
theorem freshNumber_add {names others : List (String × Nat)} {offset : Nat}
    (h : ∀ n, 1 ≤ n → others.any (·.2 = n + offset) = names.any (·.2 = n)) {fuel more n : Nat}
    (hn : 1 ≤ n) (hfuel : (namesFrom names n).length ≤ fuel)
    (hmore : (namesFrom names n).length ≤ more) :
    freshNumber others more (n + offset) = freshNumber names fuel n + offset := by
  induction fuel generalizing n more with
  | zero =>
    -- No number from here on is taken, be there steps left or not.
    have htaken : names.any (·.2 = n) = false := by
      cases htaken : names.any (·.2 = n) with
      | true =>
        have hlt := length_namesFrom_succ htaken
        omega
      | false => rfl
    cases more with
    | zero => rfl
    | succ more =>
      change freshNumber others (more + 1) (n + offset) = n + offset
      rw [freshNumber, h n hn, htaken, if_neg Bool.false_ne_true]
  | succ fuel ih =>
    cases htaken : names.any (·.2 = n) with
    | true =>
      have hlt := length_namesFrom_succ htaken
      cases more with
      | zero => omega
      | succ more =>
        rw [freshNumber, freshNumber, h n hn, htaken, if_pos rfl, if_pos rfl,
          Nat.add_right_comm]
        exact ih (by omega) (by omega) (by omega)
    | false =>
      cases more with
      | zero => rw [freshNumber, freshNumber, htaken]; rfl
      | succ more => rw [freshNumber, freshNumber, h n hn, htaken]; rfl

end Reader

/-! Names behind others -/

theorem mem_of_lookup {names : List (String × Nat)} {key : String} {n : Nat}
    (h : names.lookup key = some n) : (key, n) ∈ names := by
  obtain ⟨front, back, rfl, -⟩ := List.lookup_eq_some_iff.1 h
  exact List.mem_append_right front List.mem_cons_self

/-- Names of groups that come behind as many others. -/
def shifted (base : Nat) (names : List (String × Nat)) : List (String × Nat) :=
  names.map fun p => (p.1, p.2 + base)

theorem lookup_shifted (base : Nat) (names : List (String × Nat)) (key : String) :
    (shifted base names).lookup key = (names.lookup key).map (· + base) := by
  induction names with
  | nil => rfl
  | cons p names ih =>
    have hcons : shifted base (p :: names) = (p.1, p.2 + base) :: shifted base names := rfl
    rw [hcons, List.lookup_cons, List.lookup_cons]
    cases key == p.1 with
    | true => rfl
    | false => exact ih

theorem shifted_concat (base : Nat) (names : List (String × Nat)) (key : String) (n : Nat) :
    shifted base (names ++ [(key, n)]) = shifted base names ++ [(key, n + base)] := List.map_append

/-- Behind others, the fresh number is the same, counted on from theirs. -/
theorem Reader.freshNumber_shifted {before names : List (String × Nat)} {base n : Nat}
    (hbefore : ∀ p ∈ before, p.2 ≤ base) (hn : 1 ≤ n) :
    freshNumber (before ++ shifted base names) (before ++ shifted base names).length (n + base) =
      freshNumber names names.length n + base := by
  refine freshNumber_add (fun i hi => ?_) hn (List.length_filter_le _ _)
    (Nat.le_trans (List.length_filter_le _ _) ?_)
  · have hnone : before.any (·.2 = i + base) = false := by
      refine List.any_eq_false.2 fun p hp => ?_
      have hle := hbefore p hp
      simpa using (by omega : p.2 ≠ i + base)
    rw [List.any_append, hnone, shifted, List.any_map]
    simp [Function.comp_def]
  · simp [shifted]

/-! The highest number -/

def Purpose.highest : Purpose → Nat
  | .reset _ highest => highest
  | _ => 0

def highestOf (groups : List OpenGroup) : Nat :=
  groups.foldr (fun g n => max g.purpose.highest n) 0

namespace Reader

variable {r s e : Reader} {rest : List Char}

def peak (r : Reader) : Nat := max r.groupCount (highestOf r.groups)

/-! What steps do to the numbers -/

theorem bar_cases (h : r.bar rest = .ok s) :
    s = { r with rest, level := r.level.split } ∨
      ∃ g groups first highest, r.groups = g :: groups ∧ g.purpose = .reset first highest ∧
        s = { r with
          rest, level := r.level.split, groupCount := first
          groups := { g with purpose := .reset first (max highest r.groupCount) } :: groups } := by
  rw [bar] at h
  dsimp only at h
  split at h
  · exact .inl (Except.ok.inj h).symm
  · next g groups hgroups =>
    have hclosed (h : (if r.level.alternatives.isEmpty then
        .ok { r with rest, level := r.level.split } else fault (.missing ")") r.rest) = .ok s) :
        s = { r with rest, level := r.level.split } := by
      split at h
      · exact (Except.ok.inj h).symm
      · cases h
    split at h
    · exact .inl (hclosed h)
    · exact .inl (hclosed h)
    · next first highest hpurpose =>
      exact .inr ⟨g, groups, first, highest, hgroups, hpurpose, (Except.ok.inj h).symm⟩
    · exact .inl (Except.ok.inj h).symm

theorem closing_cases (h : r.closing rest = .ok s) :
    ∃ g groups, r.groups = g :: groups ∧ s = r.close rest g groups := by
  rw [closing] at h
  split at h
  · cases h
  · next g groups hgroups => exact ⟨g, groups, hgroups, (Except.ok.inj h).symm⟩

/-- At the end of a group nothing is counted; behind a reset the highest number counts. -/
theorem close_numbers (rest : List Char) (g : OpenGroup) (groups : List OpenGroup) :
    (r.close rest g groups).names = r.names ∧ (r.close rest g groups).opened = r.opened ∧
      (r.close rest g groups).groupCount = max g.purpose.highest r.groupCount ∧
      highestOf (r.close rest g groups).groups = highestOf groups := by
  have hzero : r.groupCount = max 0 r.groupCount := (Nat.zero_max _).symm
  have hconditional (ref : GroupName) (g : OpenGroup) (n yes no : Node) :
      let back (n : Node) : Reader :=
        { r with rest, flags := g.flags, level := g.outer.push n, groups }
      let s := close.conditional g back ref yes no
      s.names = r.names ∧ s.opened = r.opened ∧ s.groupCount = max 0 r.groupCount ∧
        highestOf s.groups = highestOf groups := by
    simp only [close.conditional]
    split <;> exact ⟨rfl, rfl, hzero, rfl⟩
  obtain ⟨purpose, flags, outer, earlier⟩ := g
  cases purpose with
  | plain | capture | look | atomic | ifLook => exact ⟨rfl, rfl, hzero, rfl⟩
  | reset first highest => exact ⟨rfl, rfl, rfl, rfl⟩
  | test => exact ⟨rfl, rfl, hzero, Nat.zero_max _⟩
  | ifGroup ref =>
    rw [close]
    cases r.level.alternatives with
    | nil => exact hconditional ref _ .empty _ _
    | cons yes alternatives => exact hconditional ref _ .empty _ _

/-! Groups that capture: without a name, with the name of a group before, and with a new name. -/

theorem openCapture_bare (rest : List Char) :
    r.openCapture none rest =
      { r with groupCount := r.groupCount + 1, opened := (r.groupCount + 1) :: r.opened }.open_
        (.capture (r.groupCount + 1)) rest := rfl

theorem openCapture_known {key : String} {n : Nat} (h : r.names.lookup key = some n)
    (rest : List Char) :
    r.openCapture (some key) rest = { r with opened := n :: r.opened }.open_ (.capture n) rest := by
  simp [openCapture, h]

theorem openCapture_fresh {key : String} (h : r.names.lookup key = none) (rest : List Char) :
    let n := freshNumber r.names r.names.length (r.groupCount + 1)
    r.openCapture (some key) rest =
      { r with groupCount := n, names := r.names ++ [(key, n)], opened := n :: r.opened }.open_
        (.capture n) rest := by
  simp [openCapture, h]

/-! Names -/

theorem names_act {action : Action} (h : r.act action rest = some s) : r.names <+: s.names := by
  cases action with
  | split =>
    rcases bar_cases (toOption_eq_some.1 h) with rfl | ⟨g, groups, first, highest, -, -, rfl⟩
    · exact List.prefix_rfl
    · exact List.prefix_rfl
  | close =>
    obtain ⟨g, groups, -, rfl⟩ := closing_cases (toOption_eq_some.1 h)
    exact (close_numbers rest g groups).1.symm ▸ List.prefix_rfl
  | quantify | constrain =>
    obtain ⟨level, -, rfl⟩ := Option.map_eq_some_iff.1 h
    exact List.prefix_rfl
  | capture name =>
    obtain rfl := Option.some.inj h
    cases name with
    | none => exact List.prefix_rfl
    | some key =>
      cases hkey : r.names.lookup key with
      | none => rw [openCapture_fresh hkey]; exact List.prefix_append _ _
      | some n => rw [openCapture_known hkey]; exact List.prefix_rfl
  | change on off ownGroup =>
    obtain rfl := Option.some.inj h
    cases ownGroup <;> exact List.prefix_rfl
  | relative forward offset used =>
    simp only [act] at h
    split at h
    · cases h
    · obtain rfl := Option.some.inj h
      exact List.prefix_rfl
  | _ =>
    obtain rfl := Option.some.inj h
    exact List.prefix_rfl

theorem names_readAll {fuel : Nat} (h : readAll fuel r = .ok e) : r.names <+: e.names :=
  readAll_keeps (P := (r.names <+: ·.names)) (fun hnames hact => hnames.trans (names_act hact)) h
    List.prefix_rfl

/-! Bounds -/

/-- All numbers are between one and the highest one counted to. -/
structure Numbered (r : Reader) : Prop where
  opened : ∀ n ∈ r.opened, 1 ≤ n ∧ n ≤ r.peak
  names : ∀ p ∈ r.names, 1 ≤ p.2 ∧ p.2 ≤ r.peak

namespace Numbered

theorem of_le (h : r.Numbered) (hopened : s.opened = r.opened) (hnames : s.names = r.names)
    (hpeak : r.peak ≤ s.peak) : s.Numbered where
  opened n hn := (h.opened n (hopened ▸ hn)).imp_right fun hle => Nat.le_trans hle hpeak
  names p hp := (h.names p (hnames ▸ hp)).imp_right fun hle => Nat.le_trans hle hpeak

theorem enter (h : r.Numbered) {n : Nat} (hopened : s.opened = n :: r.opened)
    (hn : 1 ≤ n ∧ n ≤ s.peak) (hnames : ∀ p ∈ s.names, p ∈ r.names ∨ p.2 = n)
    (hpeak : r.peak ≤ s.peak) : s.Numbered where
  opened i hi := by
    rcases List.mem_cons.1 (hopened ▸ hi) with rfl | hi
    · exact hn
    · exact (h.opened i hi).imp_right fun hle => Nat.le_trans hle hpeak
  names p hp := by
    rcases hnames p hp with hp | hp
    · exact (h.names p hp).imp_right fun hle => Nat.le_trans hle hpeak
    · rwa [hp]

theorem openCapture (h : r.Numbered) (name : Option String) : (r.openCapture name rest).Numbered := by
  have hpeak (i n : Nat) (names : List (String × Nat)) (opened : List Nat) :
      Reader.peak ({ r with groupCount := i, names, opened }.open_ (.capture n) rest) =
        max i (highestOf r.groups) := by
    simp [peak, open_, highestOf, Purpose.highest]
  cases name with
  | none =>
    have hmore := hpeak (r.groupCount + 1) (r.groupCount + 1) r.names
      ((r.groupCount + 1) :: r.opened)
    rw [openCapture_bare]
    exact h.enter rfl (by omega) (fun p hp => .inl hp) (by rw [peak]; omega)
  | some key =>
    cases hkey : r.names.lookup key with
    | some n =>
      have hbounds := h.names (key, n) (mem_of_lookup hkey)
      have hsame := hpeak r.groupCount n r.names (n :: r.opened)
      rw [openCapture_known hkey]
      exact h.enter rfl (hsame ▸ hbounds) (fun p hp => .inl hp) (Nat.le_of_eq hsame.symm)
    | none =>
      have hle := le_freshNumber r.names r.names.length (r.groupCount + 1)
      rw [openCapture_fresh hkey]
      generalize freshNumber r.names r.names.length (r.groupCount + 1) = n at hle ⊢
      have hmore := hpeak n n (r.names ++ [(key, n)]) (n :: r.opened)
      refine h.enter rfl (by omega) (fun p hp => ?_) (by rw [peak]; omega)
      rcases List.mem_append.1 hp with hp | hp
      · exact .inl hp
      · rw [List.mem_singleton.1 hp]
        exact .inr rfl

theorem act (h : r.Numbered) {action : Action} (hact : r.act action rest = some s) : s.Numbered := by
  have hopen (p : Purpose) : peak r ≤ peak (r.open_ p rest) :=
    Nat.max_le.2 ⟨Nat.le_max_left _ _, Nat.le_trans (Nat.le_max_right _ _) (Nat.le_max_right _ _)⟩
  cases action with
  | split =>
    -- A reset counts anew, but it keeps the highest number that it has got to.
    rcases bar_cases (toOption_eq_some.1 hact) with rfl | ⟨g, groups, first, highest, hg, hp, rfl⟩
    · exact h.of_le rfl rfl (Nat.le_refl _)
    · refine h.of_le rfl rfl ?_
      simp only [peak, hg, highestOf, List.foldr_cons, hp, Purpose.highest]
      omega
  | close =>
    obtain ⟨g, groups, hg, rfl⟩ := closing_cases (toOption_eq_some.1 hact)
    obtain ⟨hnames, hopened, hcount, hhighest⟩ := r.close_numbers rest g groups
    refine h.of_le hopened hnames ?_
    rw [peak, peak, hcount, hhighest, hg]
    simp only [highestOf, List.foldr_cons]
    omega
  | quantify | constrain =>
    obtain ⟨level, -, rfl⟩ := Option.map_eq_some_iff.1 hact
    exact h.of_le rfl rfl (Nat.le_refl _)
  | capture name =>
    obtain rfl := Option.some.inj hact
    exact h.openCapture name
  | look | test | atomic | reset =>
    obtain rfl := Option.some.inj hact
    exact h.of_le rfl rfl (hopen _)
  | change on off ownGroup =>
    obtain rfl := Option.some.inj hact
    cases ownGroup with
    | true => exact h.of_le rfl rfl (hopen .plain)
    | false => exact h.of_le rfl rfl (Nat.le_refl _)
  | condition ref used =>
    obtain rfl := Option.some.inj hact
    exact h.of_le rfl rfl (hopen (.ifGroup ref))
  | relative forward offset used =>
    simp only [Reader.act] at hact
    split at hact
    · cases hact
    · obtain rfl := Option.some.inj hact
      exact h.of_le rfl rfl (Nat.le_refl _)
  | _ =>
    obtain rfl := Option.some.inj hact
    exact h.of_le rfl rfl (Nat.le_refl _)

end Numbered

/-- All numbers are between one and the number of groups. -/
structure IsCounted (r : Reader) : Prop where
  opened : ∀ n ∈ r.opened, 1 ≤ n ∧ n ≤ r.groupCount
  names : ∀ p ∈ r.names, 1 ≤ p.2 ∧ p.2 ≤ r.groupCount

/-- At the end of a pattern no group is open, so that the count is the highest one. -/
theorem isCounted_of_readAll {fuel : Nat} {word : List Char}
    (h : readAll fuel { rest := word } = .ok e) (hgroups : e.groups = []) : e.IsCounted := by
  have hnumbered : e.Numbered := readAll_keeps (fun h hact => h.act hact) h ⟨by simp, by simp⟩
  have hpeak : e.peak = e.groupCount := by simp [peak, hgroups, highestOf]
  exact ⟨fun n hn => hpeak ▸ hnumbered.opened n hn, fun p hp => hpeak ▸ hnumbered.names p hp⟩

end Reader
end ReleaseMatch.Pattern
