import ReleaseMatch.Proofs.Reading.Resolve
set_option autoImplicit false

/-!
# Patterns in a row

Patterns that are valid by themselves make a valid one in lookaheads behind one another, and as
alternatives side by side, if none of them takes away from the others what they are: the text behind
them, their names and numbers, their flags.
-/
namespace ReleaseMatch.Pattern

/-! A pattern by itself -/

def endOf (word : List Char) : Reader :=
  match Reader.readAll (word.length + 1) { rest := word } with
  | .ok e => e
  | .error _ => { rest := word }

theorem endOf_of_readAll {word : List Char} {e : Reader}
    (h : Reader.readAll (word.length + 1) { rest := word } = .ok e) : endOf word = e := by
  rw [endOf, h]

structure IsPattern (word : List Char) : Prop where
  read : Reader.readAll (word.length + 1) { rest := word } = .ok (endOf word)
  sound : (endOf word).IsSound

/-- Comes to an end before a stop that stands behind it. -/
def EndsBeforeStop (word : List Char) : Prop :=
  Reader.passes Reader.isSettled (word.length + 1) { rest := word } = true

/-- Refers to no group, not even for a while. -/
def MentionsNone (word : List Char) : Prop :=
  Reader.passes Reader.mentionsNone (word.length + 1) { rest := word } = true

instance (word : List Char) : Decidable (EndsBeforeStop word) := inferInstanceAs (Decidable (_ = true))

instance (word : List Char) : Decidable (MentionsNone word) := inferInstanceAs (Decidable (_ = true))

theorem exists_read_iff_isPattern {word : List Char} :
    (∃ r, Regex.read word = .ok r) ↔ IsPattern word := by
  simp only [Regex.read_eq_ok_iff]
  constructor
  · rintro ⟨r, e, hread, hsound, -⟩
    have hend := endOf_of_readAll hread
    exact ⟨by rw [hend, hread], hend.symm ▸ hsound⟩
  · intro h
    exact ⟨_, _, h.read, h.sound, rfl⟩

/-! What has been read of a row -/

theorem exists_of_mem_right {α β : Type} {R : α → β → Prop} {xs : List α} {ys : List β} {y : β}
    (h : List.Forall₂ R xs ys) (hy : y ∈ ys) : ∃ x ∈ xs, R x y := by
  induction h with
  | nil => cases hy
  | @cons x y' xs ys hxy _ ih =>
    rcases List.mem_cons.1 hy with rfl | hy
    · exact ⟨x, List.mem_cons_self, hxy⟩
    · obtain ⟨z, hz, hrel⟩ := ih hy
      exact ⟨z, List.mem_cons_of_mem x hz, hrel⟩

/-- Has read patterns that end like these, the latest first. Numbers are known if they matter. -/
structure Reader.HasRead (exact : Prop) (before : List Reader) (r : Reader) : Prop where
  counted : ∀ e ∈ before, e.IsCounted
  version : Flag.oldVersion ∉ r.globals
  references : ∀ other ∈ r.references, exact ∧ ∃ e earlier ref,
    e :: earlier <:+ before ∧ ref ∈ e.references ∧ ref.Beside (groupsOf earlier) other
  groupCount : exact → r.groupCount = groupsOf before
  names : exact → r.names = namesOf before
  opened : exact → r.opened = openedOf before

/-- Can be read in a row with others. -/
structure FitsIn (exact : Prop) (word : List Char) : Prop extends IsPattern word where
  mentions : exact ∨ MentionsNone word

section

variable {exact : Prop} {word more : List Char} {before : List Reader} {start s : Reader}

theorem IsPattern.isCounted (h : IsPattern word) : (endOf word).IsCounted :=
  Reader.isCounted_of_readAll h.read (Reader.end_of_readAll (Nat.lt_succ_self _) h.read).2.1

theorem IsPattern.references_eq_nil (h : IsPattern word) (hmentions : MentionsNone word) :
    (endOf word).references = [] :=
  Reader.mentionsNone_iff.1
    ((Reader.end_of_readAll (Nat.lt_succ_self _) h.read).2.2 _ hmentions)

theorem Reader.HasRead.isReady (h : start.HasRead exact before)
    (hgroups : ∀ g ∈ start.groups.head?, ∃ behind positive, g.purpose = .look behind positive) :
    start.IsReady exact where
  groups := hgroups
  names hexact p hp := by
    rw [h.groupCount hexact]
    exact (names_le h.counted p (h.names hexact ▸ hp)).2

theorem Reader.HasRead.cons (h : start.HasRead exact before) (hfits : FitsIn exact word)
    (hs : Beside exact more start (endOf word) s) : s.HasRead exact (endOf word :: before) where
  counted := List.forall_mem_cons.2 ⟨hfits.isCounted, h.counted⟩
  version := by
    rw [hs.globals, List.mem_append, not_or]
    exact ⟨hfits.sound.version, h.version⟩
  references := by
    obtain ⟨own, howns, hrelated⟩ := hs.references
    rw [howns]
    intro other hother
    rcases List.mem_append.1 hother with hother | hother
    · obtain ⟨ref, href, hbeside⟩ := exists_of_mem_right hrelated hother
      have hexact : exact := hfits.mentions.resolve_right fun hmentions => by
        rw [hfits.references_eq_nil hmentions] at href
        cases href
      rw [h.groupCount hexact] at hbeside
      exact ⟨hexact, _, before, ref, List.suffix_rfl, href, hbeside⟩
    · obtain ⟨hexact, e, earlier, ref, hsuffix, href⟩ := h.references other hother
      exact ⟨hexact, e, earlier, ref, hsuffix.trans (List.suffix_cons _ _), href⟩
  groupCount hexact := by rw [hs.groupCount hexact, h.groupCount hexact, groupsOf]
  names hexact := by rw [hs.names hexact, h.names hexact, h.groupCount hexact, namesOf]
  opened hexact := by rw [hs.opened hexact, h.opened hexact, h.groupCount hexact, openedOf]

/-- A pattern is read in its row, up to what stands behind it. -/
theorem Reader.HasRead.exists_word (h : start.HasRead exact before) (hfits : FitsIn exact word)
    (hgroups : ∀ g ∈ start.groups.head?, ∃ behind positive, g.purpose = .look behind positive)
    (hv : start.isVerbose = false) (hrest : start.rest = word ++ more)
    {gaps : List (Option Bool)} (hgaps : start.level.gaps = none :: gaps)
    (hmore : more = [] ∨ StopsAt more ∧ EndsBeforeStop word)
    (hnames : exact → ∀ f ∈ before, f.NamesApart (endOf word)) :
    ∃ s, start.Steps s ∧ s.HasRead exact (endOf word :: before) ∧ s.groups = start.groups ∧
      Flags.Beside start.flags (endOf word).flags s.flags ∧
      next s.isVerbose s.rest = next false more := by
  have hother (hexact : exact) (p : String × Nat) (hp : p ∈ (endOf word).names) :
      start.names.lookup p.1 = none := by
    rw [h.names hexact]
    exact lookup_namesOf_eq_none fun f hf q hq => hnames hexact f hf q hq p hp
  obtain ⟨s, hsteps, hs⟩ := (Beside.of_start start hv word hrest hgaps).run (h.isReady hgroups)
    hfits.read hmore hfits.mentions hother
  obtain ⟨hend, hnogroups, hpasses⟩ := Reader.end_of_readAll (Nat.lt_succ_self _) hfits.read
  have hfollowed : Followed (endOf word).isVerbose (endOf word).rest more :=
    followed_of_isSettled (hmore.imp_right (And.imp_right (hpasses Reader.isSettled)))
  have hverbose : s.isVerbose = (endOf word).isVerbose := hs.flags.verbose
  refine ⟨s, hsteps, h.cons hfits hs, (hnogroups ▸ hs.stacked).groups_eq, hs.flags, ?_⟩
  rw [hverbose, hs.rest]
  exact hfollowed.next_none hend

end

/-! Lookaheads -/

def lookaheads : List (List Char) → List Char
  | [] => ['.', '*']
  | word :: words => "(?=.*".toList ++ (word ++ ')' :: lookaheads words)

section

variable {exact : Prop} {word tail : List Char} {before : List Reader} {r : Reader}

theorem Reader.HasRead.exists_lookahead (h : r.HasRead exact before) (hfits : FitsIn exact word)
    (hends : EndsBeforeStop word) (hflags : r.flags = .standard)
    (hrest : r.rest = "(?=.*".toList ++ (word ++ ')' :: tail))
    (hnames : exact → ∀ f ∈ before, f.NamesApart (endOf word)) :
    ∃ s, r.Steps s ∧ s.HasRead exact (endOf word :: before) ∧ s.rest = tail ∧ s.groups = r.groups ∧
      s.flags = .standard := by
  have halike : r.flags.Alike (caseFlags true) := .of_eq hflags
  let start := (r.open_ (.look false true) ('.' :: '*' :: (word ++ ')' :: tail))).gain
    [some Node.anything, none] (word ++ ')' :: tail)
  have hopen : r.PlainSteps start := Reader.steps_lookahead hfits.read halike hrest
  have hstart : start.HasRead exact before :=
    ⟨h.counted, h.version, h.references, h.groupCount, h.names, h.opened⟩
  obtain ⟨s, hsteps, hs, hgroups, -, hn⟩ := hstart.exists_word hfits
    (fun g hg => ⟨false, true, by rw [← Option.some.inj hg]⟩) (Reader.isVerbose_of_flags halike) rfl
    rfl (.inr ⟨⟨')', tail, by decide, rfl⟩, hends⟩) hnames
  have hclose : s.readChar ')' tail =
      .ok (s.close tail ⟨.look false true, r.flags, r.level, []⟩ r.groups) := by
    rw [Reader.readChar, Reader.closing, hgroups]
    rfl
  exact ⟨_, (hopen.toSteps.trans hsteps).trans (.of_readChar hn hclose (Nat.le_refl _)),
    ⟨hs.counted, hs.version, hs.references, hs.groupCount, hs.names, hs.opened⟩, rfl, rfl, hflags⟩

theorem Reader.HasRead.exists_aheads {words : List (List Char)} (h : r.HasRead exact before)
    (hfits : ∀ word ∈ words, FitsIn exact word ∧ EndsBeforeStop word) (hflags : r.flags = .standard)
    (hrest : r.rest = words.flatMap (fun word => "(?=.*".toList ++ (word ++ [')'])) ++ tail)
    (hnames : exact → (before.reverse ++ words.map endOf).Pairwise Reader.NamesApart) :
    ∃ s, r.Steps s ∧ s.HasRead exact ((words.map endOf).reverse ++ before) ∧ s.rest = tail ∧
      s.groups = r.groups ∧ s.flags = .standard := by
  induction words generalizing r before with
  | nil => exact ⟨r, .refl, h, hrest, rfl, hflags⟩
  | cons word words ih =>
    obtain ⟨⟨hword, hends⟩, hwords⟩ := List.forall_mem_cons.1 hfits
    have hbefore (hexact : exact) (f : Reader) (hf : f ∈ before) : f.NamesApart (endOf word) :=
      (List.pairwise_append.1 (hnames hexact)).2.2 f (List.mem_reverse.2 hf) _ List.mem_cons_self
    obtain ⟨s, hsteps, hs, hsrest, hsgroups, hsflags⟩ :=
      h.exists_lookahead hword hends hflags (by simpa using hrest) hbefore
    obtain ⟨t, hsteps', ht, htrest, htgroups, htflags⟩ :=
      ih hs hwords hsflags hsrest (by simpa using hnames)
    exact ⟨t, hsteps.trans hsteps', by simpa using ht, htrest, htgroups.trans hsgroups, htflags⟩

theorem lookaheads_eq (words : List (List Char)) :
    lookaheads words = words.flatMap (fun word => "(?=.*".toList ++ (word ++ [')'])) ++ ['.', '*'] := by
  induction words with
  | nil => rfl
  | cons word words ih => simp [lookaheads, ih]

theorem Reader.HasRead.exists_lookaheads {words : List (List Char)} (h : r.HasRead exact before)
    (hfits : ∀ word ∈ words, FitsIn exact word ∧ EndsBeforeStop word) (hflags : r.flags = .standard)
    (hrest : r.rest = lookaheads words)
    (hnames : exact → (before.reverse ++ words.map endOf).Pairwise Reader.NamesApart) :
    ∃ s, r.Steps s ∧ s.HasRead exact ((words.map endOf).reverse ++ before) ∧ s.rest = [] ∧
      s.groups = r.groups ∧ s.flags = .standard := by
  rw [lookaheads_eq] at hrest
  obtain ⟨s, hsteps, hs, hsrest, hsgroups, hsflags⟩ := h.exists_aheads hfits hflags hrest hnames
  have halike : s.flags.Alike (caseFlags true) := .of_eq hsflags
  have hanything := Reader.steps_anything halike hsrest isPlainEnd_nil
  exact ⟨_, hsteps.trans hanything.toSteps,
    ⟨hs.counted, hs.version, hs.references, hs.groupCount, hs.names, hs.opened⟩, rfl, hsgroups, hsflags⟩

end

/-! Alternatives -/

section

variable {exact : Prop} {before : List Reader} {r : Reader}

theorem Reader.HasRead.exists_branch {word tail : List Char} (h : r.HasRead exact before)
    (hfits : FitsIn exact word) (hends : EndsBeforeStop word) (hverbose : r.isVerbose = false)
    (hgroups : r.groups = []) (hgaps : r.level.gaps = [none]) (hrest : r.rest = word ++ '|' :: tail)
    (hnames : exact → ∀ f ∈ before, f.NamesApart (endOf word)) :
    ∃ s, r.Steps s ∧ s.HasRead exact (endOf word :: before) ∧ s.rest = tail ∧ s.groups = [] ∧
      s.level.gaps = [none] ∧ Flags.Beside r.flags (endOf word).flags s.flags := by
  have htop : ∀ g ∈ r.groups.head?, ∃ behind positive, g.purpose = .look behind positive := by
    rw [hgroups]
    nofun
  obtain ⟨s, hsteps, hs, hsgroups, hsflags, hn⟩ :=
    h.exists_word hfits htop hverbose hrest hgaps (.inr ⟨⟨'|', _, by decide, rfl⟩, hends⟩) hnames
  have hbar : s.readChar '|' tail = .ok { s with rest := tail, level := s.level.split } := by
    simp only [Reader.readChar, Reader.bar, hsgroups, hgroups]
  exact ⟨_, hsteps.trans (.of_readChar hn hbar (Nat.le_refl _)),
    ⟨hs.counted, hs.version, hs.references, hs.groupCount, hs.names, hs.opened⟩, rfl,
    hsgroups.trans hgroups, rfl, hsflags⟩

theorem Reader.HasRead.exists_branches {words : List (List Char)} {tail : List Char}
    (h : r.HasRead exact before)
    (hfits : ∀ word ∈ words, FitsIn exact word ∧ EndsBeforeStop word ∧ (endOf word).isVerbose = false)
    (hverbose : r.isVerbose = false) (hgroups : r.groups = []) (hgaps : r.level.gaps = [none])
    (hrest : r.rest = words.flatMap (· ++ ['|']) ++ tail)
    (hnames : exact → (before.reverse ++ words.map endOf).Pairwise Reader.NamesApart) :
    ∃ s, r.Steps s ∧ s.HasRead exact ((words.map endOf).reverse ++ before) ∧ s.rest = tail ∧
      s.isVerbose = false ∧ s.groups = [] ∧ s.level.gaps = [none] ∧
      ∀ f ∈ s.flags, f ∈ r.flags ∨ ∃ word ∈ words, f ∈ (endOf word).flags := by
  induction words generalizing r before with
  | nil => exact ⟨r, .refl, h, hrest, hverbose, hgroups, hgaps, fun f hf => .inl hf⟩
  | cons word words ih =>
    obtain ⟨⟨hword, hends, hcalm⟩, hwords⟩ := List.forall_mem_cons.1 hfits
    have hbefore (hexact : exact) (f : Reader) (hf : f ∈ before) : f.NamesApart (endOf word) :=
      (List.pairwise_append.1 (hnames hexact)).2.2 f (List.mem_reverse.2 hf) _ List.mem_cons_self
    obtain ⟨s, hsteps, hs, hsrest, hsgroups, hsgaps, hsflags⟩ :=
      h.exists_branch hword hends hverbose hgroups hgaps (by simpa using hrest) hbefore
    obtain ⟨t, hsteps', ht, htrest, htverbose, htgroups, htgaps, htflags⟩ :=
      ih hs hwords (hsflags.verbose.trans hcalm) hsgroups hsgaps hsrest (by simpa using hnames)
    refine ⟨t, hsteps.trans hsteps', by simpa using ht, htrest, htverbose, htgroups, htgaps, fun f hf => ?_⟩
    rcases htflags f hf with hf | ⟨w, hw, hf⟩
    · exact (hsflags.subset f hf).symm.imp_right fun hflag => ⟨word, List.mem_cons_self, hflag⟩
    · exact .inr ⟨w, List.mem_cons_of_mem _ hw, hf⟩

theorem intercalate_concat {α : Type} (sep : List α) (words : List (List α)) (last : List α) :
    sep.intercalate (words ++ [last]) = words.flatMap (· ++ sep) ++ last := by
  induction words with
  | nil => simp
  | cons word words ih =>
    cases words with
    | nil => simp [List.intercalate_cons_cons]
    | cons other words =>
      rw [List.cons_append, List.cons_append, List.intercalate_cons_cons, ← List.cons_append, ih]
      simp

theorem Reader.HasRead.exists_alternatives {words : List (List Char)} (hne : words ≠ [])
    (h : r.HasRead exact before) (hfits : ∀ word ∈ words, FitsIn exact word)
    (hends : ∀ word ∈ words.dropLast, EndsBeforeStop word ∧ (endOf word).isVerbose = false)
    (hverbose : r.isVerbose = false) (hgroups : r.groups = []) (hgaps : r.level.gaps = [none])
    (hrest : r.rest = ['|'].intercalate words)
    (hnames : exact → (before.reverse ++ words.map endOf).Pairwise Reader.NamesApart) :
    ∃ s, r.Steps s ∧ s.HasRead exact ((words.map endOf).reverse ++ before) ∧
      next s.isVerbose s.rest = none ∧ s.groups = [] ∧
      ∀ f ∈ s.flags, f ∈ r.flags ∨ ∃ word ∈ words, f ∈ (endOf word).flags := by
  obtain ⟨first, last, rfl⟩ : ∃ first last, words = first ++ [last] :=
    ⟨_, _, (List.dropLast_concat_getLast hne).symm⟩
  rw [List.dropLast_concat] at hends
  rw [intercalate_concat] at hrest
  rw [List.map_append, ← List.append_assoc] at hnames
  obtain ⟨hfirst, hlast⟩ := List.forall_mem_append.1 hfits
  obtain ⟨s, hsteps, hs, hsrest, hsverbose, hsgroups, hsgaps, hsflags⟩ :=
    h.exists_branches (fun word hword => ⟨hfirst word hword, hends word hword⟩) hverbose hgroups hgaps
      hrest fun hexact => (List.pairwise_append.1 (hnames hexact)).1
  have htop : ∀ g ∈ s.groups.head?, ∃ behind positive, g.purpose = .look behind positive := by
    rw [hsgroups]
    nofun
  have hbefore (hexact : exact) (f : Reader) (hf : f ∈ (first.map endOf).reverse ++ before) :
      f.NamesApart (endOf last) := by
    refine (List.pairwise_append.1 (hnames hexact)).2.2 f ?_ _ List.mem_cons_self
    simpa [or_comm] using hf
  obtain ⟨t, hsteps', ht, htgroups, htflags, hn⟩ :=
    hs.exists_word (hlast last List.mem_cons_self) htop hsverbose (by simpa using hsrest) hsgaps
      (.inl rfl) hbefore
  refine ⟨t, hsteps.trans hsteps', by simpa using ht, hn, htgroups.trans hsgroups, fun f hf => ?_⟩
  rcases htflags.subset f hf with hf | hf
  · exact .inr ⟨last, List.mem_append_right first List.mem_cons_self, hf⟩
  · exact (hsflags f hf).imp_right fun ⟨w, hw, hflag⟩ => ⟨w, List.mem_append_left _ hw, hflag⟩

end

/-! Whole rows -/

def Flag.isEncoding : Flag → Bool
  | .ascii | .localeAware | .unicode => true
  | _ => false

def EncodingsAgree (words : List (List Char)) : Prop :=
  ∀ v ∈ words, ∀ w ∈ words, ∀ f ∈ (endOf v).flags, ∀ g ∈ (endOf w).flags,
    f.isEncoding = true → g.isEncoding = true → f = g

def GroupsApart (words : List (List Char)) : Prop :=
  (∀ word ∈ words, MentionsNone word) ∨ Distinguished (words.map endOf)

instance (words : List (List Char)) : Decidable (EncodingsAgree words) :=
  inferInstanceAs (Decidable (∀ v ∈ words, ∀ w ∈ words, ∀ f ∈ (endOf v).flags,
    ∀ g ∈ (endOf w).flags, f.isEncoding = true → g.isEncoding = true → f = g))

instance (words : List (List Char)) : Decidable (GroupsApart words) :=
  inferInstanceAs (Decidable (_ ∨ _))

theorem Reader.mixesEncodings_eq_false {r : Reader}
    (h : ∀ f ∈ r.flags, ∀ g ∈ r.flags, f.isEncoding = true → g.isEncoding = true → f = g) :
    r.mixesEncodings = false := by
  have hnot {f g : Flag} (hne : f ≠ g) (hf : f.isEncoding = true) (hg : g.isEncoding = true) :
      (r.flags.contains f && r.flags.contains g) = false := by
    rw [Bool.and_eq_false_imp]
    intro hfmem
    refine Bool.eq_false_iff.2 fun hgmem => hne ?_
    exact h f (List.contains_iff_mem.1 hfmem) g (List.contains_iff_mem.1 hgmem) hf hg
  have hal := hnot (f := .ascii) (g := .localeAware) (by decide) rfl rfl
  have hau := hnot (f := .ascii) (g := .unicode) (by decide) rfl rfl
  have hlu := hnot (f := .localeAware) (g := .unicode) (by decide) rfl rfl
  rw [Reader.mixesEncodings]
  simp only [List.filter_cons, List.filter_nil]
  revert hal hau hlu
  cases r.flags.contains .ascii <;> cases r.flags.contains .localeAware <;>
    cases r.flags.contains .unicode <;> decide

theorem Reader.NamesApart.symm {e f : Reader} (h : e.NamesApart f) : f.NamesApart e :=
  fun p hp q hq heq => h q hq p hp heq.symm

theorem Distinguished.reverse {es : List Reader} (h : Distinguished es) : Distinguished es.reverse where
  names := List.pairwise_reverse.2 (h.names.imp Reader.NamesApart.symm)
  calls := by simpa only [List.mem_reverse] using h.calls

section

variable {words : List (List Char)} {pattern : List Char} {s : Reader}

theorem isPattern_of_hasRead (hpatterns : ∀ word ∈ words, IsPattern word)
    (hsteps : Reader.Steps { rest := pattern } s)
    (hread : s.HasRead (Distinguished (words.map endOf)) (words.map endOf).reverse)
    (hend : next s.isVerbose s.rest = none) (hgroups : s.groups = [])
    (hmix : s.mixesEncodings = false) : IsPattern pattern := by
  have hall := Reader.readAll_of_steps hsteps hend hgroups (Nat.lt_succ_self pattern.length)
  have hlast := endOf_of_readAll hall
  refine ⟨by rw [hlast, hall], hlast.symm ▸ ⟨hread.version, hmix, fun other hother => ?_⟩⟩
  obtain ⟨hdistinct, e, earlier, ref, hsuffix, href, hbeside⟩ := hread.references other hother
  obtain ⟨word, hword, rfl⟩ :=
    List.mem_map.1 (List.mem_reverse.1 (hsuffix.subset List.mem_cons_self))
  rw [hread.groupCount hdistinct, hread.names hdistinct, hread.opened hdistinct]
  exact check_among hread.counted hdistinct.reverse hsuffix href hbeside
    ((hpatterns word hword).sound.references ref href)

theorem fitsIn_of_groupsApart (hpatterns : ∀ word ∈ words, IsPattern word)
    (hapart : GroupsApart words) :
    ∀ word ∈ words, FitsIn (Distinguished (words.map endOf)) word :=
  fun word hword => ⟨hpatterns word hword, hapart.symm.imp_right fun h => h word hword⟩

theorem hasRead_nil (exact : Prop) (pattern : List Char) :
    Reader.HasRead exact [] { rest := pattern } :=
  ⟨nofun, nofun, nofun, fun _ => rfl, fun _ => rfl, fun _ => rfl⟩

theorem isPattern_lookaheads (hpatterns : ∀ word ∈ words, IsPattern word)
    (hends : ∀ word ∈ words, EndsBeforeStop word) (hapart : GroupsApart words) :
    IsPattern (lookaheads words) := by
  have hfits := fitsIn_of_groupsApart hpatterns hapart
  obtain ⟨s, hsteps, hs, hrest, hgroups, hflags⟩ :=
    (hasRead_nil _ (lookaheads words)).exists_lookaheads
      (fun word hword => ⟨hfits word hword, hends word hword⟩) rfl rfl fun hdistinct => hdistinct.names
  rw [List.append_nil] at hs
  refine isPattern_of_hasRead hpatterns hsteps hs ?_ hgroups ?_
  · rw [Reader.isVerbose, hflags, hrest]
    rfl
  · rw [Reader.mixesEncodings, hflags]
    rfl

theorem isPattern_alternatives (hne : words ≠ []) (hpatterns : ∀ word ∈ words, IsPattern word)
    (hends : ∀ word ∈ words.dropLast, EndsBeforeStop word ∧ (endOf word).isVerbose = false)
    (hapart : GroupsApart words) (hencodings : EncodingsAgree words) :
    IsPattern (['|'].intercalate words) := by
  obtain ⟨s, hsteps, hs, hend, hgroups, hflags⟩ :=
    (hasRead_nil _ (['|'].intercalate words)).exists_alternatives hne
      (fitsIn_of_groupsApart hpatterns hapart) hends rfl rfl rfl rfl fun hdistinct => hdistinct.names
  rw [List.append_nil] at hs
  refine isPattern_of_hasRead hpatterns hsteps hs hend hgroups
    (Reader.mixesEncodings_eq_false fun f hf g hg hfenc hgenc => ?_)
  have hown {k : Flag} (hk : k ∈ s.flags) (henc : k.isEncoding = true) :
      ∃ word ∈ words, k ∈ (endOf word).flags := by
    refine (hflags k hk).resolve_left fun hstandard => ?_
    rw [List.mem_singleton.1 hstandard] at henc
    cases henc
  obtain ⟨v, hv, hfv⟩ := hown hf hfenc
  obtain ⟨w, hw, hgw⟩ := hown hg hgenc
  exact hencodings v hv w hw f hfv g hgw hfenc hgenc

end

/-! Sequences of nodes -/

/-- Takes nothing away from the patterns around it: ends before a stop, leaves layout to count, and has
no groups with names and no references. -/
structure IsHarmless (word : List Char) : Prop extends IsPattern word where
  ends : EndsBeforeStop word
  mentions : MentionsNone word
  layout : (endOf word).isVerbose = false
  names : (endOf word).names = []
  opened : (endOf word).opened = []
  encodings : ∀ f ∈ (endOf word).flags, f.isEncoding = false

theorem Reader.passes_of_end {test : Reader → Bool} {s : Reader} (ht : test s = true)
    (hend : next s.isVerbose s.rest = none) (fuel : Nat) : s.passes test fuel = true := by
  cases fuel with
  | zero => exact ht
  | succ fuel => rw [Reader.passes, ht, hend]; rfl

theorem isHarmless_of_standsFor {word : List Char} {nodes : List Node} (h : StandsFor word nodes) :
    IsHarmless word := by
  have hpattern := exists_read_iff_isPattern.1 ⟨_, h.read⟩
  obtain ⟨sensitive, items, hread, -⟩ := h
  obtain ⟨flags, hflags, hsteps⟩ :=
    hread.steps { rest := word } [] (.of_eq rfl) (by simp) isPlainEnd_nil
  have hverbose : Reader.isVerbose { rest := [], flags } = false :=
    Reader.isVerbose_of_flags hflags
  have hnext : next (Reader.isVerbose { rest := [], flags }) [] = none := by
    rw [hverbose]
    rfl
  have hall := Reader.readAll_of_steps hsteps.toSteps hnext rfl (Nat.lt_succ_self word.length)
  have hlast := endOf_of_readAll hall
  have hpasses {test : Reader → Bool}
      (htest : ∀ t : Reader, t.isVerbose = false → t.references = [] → test t = true) (fuel : Nat) :
      Reader.passes test fuel { rest := word } = true :=
    hsteps.passes htest (Reader.passes_of_end (htest _ hverbose rfl) hnext) fuel
  refine { hpattern with
    ends := hpasses (fun t ht _ => Reader.isSettled_iff.2 (ht ▸ Settled.plain)) _
    mentions := hpasses (fun t _ ht => Reader.mentionsNone_iff.2 ht) _
    layout := by rw [hlast]; exact hverbose
    names := by rw [hlast]; rfl
    opened := by rw [hlast]; rfl
    encodings := fun f hf => ?_ }
  rw [hlast] at hf
  have hcase : (caseFlags sensitive).contains f = true :=
    (hflags f).symm.trans (List.contains_iff_mem.2 hf)
  revert hcase
  cases sensitive <;> cases f <;> decide

end ReleaseMatch.Pattern
