import ReleaseMatch.Proofs.Reading.Action
import ReleaseMatch.Proofs.Reading.Free
import ReleaseMatch.Proofs.Reading.Quantifier
set_option autoImplicit false

/-!
# Scanning is tame

What a scan finds in a text it also finds in front of a stop, and no node that it finds refers to a
group.
-/
namespace ReleaseMatch.Pattern

open Text

def Action.IsFree : Action → Prop
  | .push n => n.isFree = true
  | _ => True

section

variable {verbose : Bool} {cs : List Char} {stop : Char} [IsStop stop]

/-- A steady scan, none of whose nodes refers to a group. -/
structure Tame (verbose : Bool) (scan : Scan) : Prop extends Steady verbose scan where
  free : ∀ {cs action rest}, scan cs = .ok (action, rest) → action.IsFree

theorem done_tame {action : Action} (h : action.IsFree) : Tame verbose (done action) where
  toSteady := .pure _
  free hscan := by
    obtain ⟨rfl, -⟩ := Prod.mk.inj (Except.ok.inj hscan)
    exact h

theorem fault_tame (cause : Cause) : Tame verbose (fault cause) where
  toSteady := .fault
  free hscan := by cases hscan

theorem amiss_tame : Tame verbose amiss := fault_tame _

theorem Steady.bind_tame {α : Type} {f : List Char → Except Fault (α × List Char)} {g : α → Scan}
    (hf : Steady verbose f) (hg : ∀ x, Tame verbose (g x)) :
    Tame verbose fun cs => f cs >>= fun found => g found.1 found.2 where
  toSteady := hf.bind fun x => (hg x).toSteady
  free hscan := by
    obtain ⟨found, -, hscan⟩ := bind_eq_ok.1 hscan
    exact (hg found.1).free hscan

def TameWays (verbose : Bool) (ways : Char → Option Scan) : Prop :=
  ∀ c, ∀ scan ∈ ways c, Tame verbose scan

theorem tame_way {scan : Scan} (h : Tame verbose scan) : ∀ way ∈ some scan, Tame verbose way := by
  rintro _ ⟨⟩
  exact h

theorem tame_noWay : ∀ way ∈ (none : Option Scan), Tame verbose way := by
  rintro way ⟨⟩

/-- A choice by the next character. A stop has no way of its own, or nothing is found in front of it. -/
theorem byNext_tame {ways : Char → Option Scan} {otherwise : Scan}
    (hstop : (∀ c ∈ stops, ways c = none) ∨
      ∀ cs found, next verbose cs = none → otherwise cs ≠ .ok found)
    (hways : TameWays verbose ways) (hother : Tame verbose otherwise) :
    Tame verbose (byNext verbose ways otherwise) where
  suffix {cs action rest} h := by
    cases hn : next verbose cs with
    | none =>
      rw [byNext_otherwise fun c beyond h => absurd h (by simp [hn])] at h
      exact hother.suffix h
    | some found =>
      cases hway : ways found.1 with
      | none =>
        rw [byNext_past hn hway] at h
        exact hother.suffix h
      | some scan =>
        rw [byNext_way hn hway] at h
        exact ((hways _ _ hway).suffix h).trans (next_rest_suffix hn)
  append {stop _ cs action rest} hcs h tail := by
    cases hn : next verbose cs with
    | none =>
      rw [byNext_otherwise fun c beyond h => absurd h (by simp [hn])] at h
      rcases hstop with hstop | hnone
      · rw [byNext_past (next_append_none hcs hn tail) (hstop _ IsStop.mem)]
        exact hother.append hcs h tail
      · exact absurd h (hnone cs _ hn)
    | some found =>
      have happend : next verbose (cs ++ stop :: tail) = _ := next_append_some hcs hn tail
      cases hway : ways found.1 with
      | none =>
        rw [byNext_past hn hway] at h
        rw [byNext_past happend hway]
        exact hother.append hcs h tail
      | some scan =>
        rw [byNext_way hn hway] at h
        rw [byNext_way happend hway]
        exact (hways _ _ hway).append (hcs.suffix (next_rest_suffix hn)) h tail
  free {cs action rest} h := by
    cases hn : next verbose cs with
    | none =>
      rw [byNext_otherwise fun c beyond h => absurd h (by simp [hn])] at h
      exact hother.free h
    | some found =>
      cases hway : ways found.1 with
      | none =>
        rw [byNext_past hn hway] at h
        exact hother.free h
      | some scan =>
        rw [byNext_way hn hway] at h
        exact (hways _ _ hway).free h

theorem readGreed_suffix : (Reader.readGreed verbose cs).2 <:+ cs := by
  rw [Reader.readGreed]
  split
  · next beyond hn => exact next_rest_suffix hn
  · next beyond hn => exact next_rest_suffix hn
  · exact List.suffix_rfl

theorem readGreed_append (hcs : Settled verbose cs) (tail : List Char) :
    Reader.readGreed verbose (cs ++ stop :: tail) =
      ((Reader.readGreed verbose cs).1, (Reader.readGreed verbose cs).2 ++ stop :: tail) := by
  cases hn : next verbose cs with
  | none =>
    simp [Reader.readGreed, hn, next_append_none hcs hn, stop_ne (show '?' ∉ stops by decide),
      stop_ne (show '+' ∉ stops by decide)]
  | some found =>
    obtain ⟨c, beyond⟩ := found
    simp only [Reader.readGreed, hn, next_append_some hcs hn]
    split <;> simp_all

theorem scanQuantifier_tame (counts : Counts) : Tame verbose (scanQuantifier verbose counts) where
  suffix {cs action rest} h := by
    obtain ⟨-, rfl⟩ := Prod.mk.inj (Except.ok.inj h)
    exact readGreed_suffix
  append {_ _ cs action rest} hcs h tail := by
    obtain ⟨rfl, rfl⟩ := Prod.mk.inj (Except.ok.inj h)
    rw [scanQuantifier, readGreed_append hcs]
  free h := by
    obtain ⟨rfl, -⟩ := Prod.mk.inj (Except.ok.inj h)
    trivial

theorem scanBrace_tame (flags : Flags) : Tame flags.isVerbose (scanBrace flags) where
  suffix {cs action rest} h := by
    rw [scanBrace] at h
    obtain ⟨found, hcounts, h⟩ := bind_eq_ok.1 h
    cases found with
    | some found =>
      exact ((scanQuantifier_tame found.1).suffix h).trans
        ((readCounts_steady flags.isVerbose).suffix hcounts)
    | none =>
      obtain ⟨found, hconstraint, h⟩ := bind_eq_ok.1 h
      cases found with
      | some beyond =>
        obtain ⟨-, rfl⟩ := Prod.mk.inj (Except.ok.inj h)
        exact readConstraint_suffix flags hconstraint
      | none =>
        obtain ⟨-, rfl⟩ := Prod.mk.inj (Except.ok.inj h)
        exact List.suffix_rfl
  append {stop _ cs action rest} hcs h tail := by
    rw [scanBrace] at h ⊢
    obtain ⟨found, hcounts, h⟩ := bind_eq_ok.1 h
    rw [(readCounts_steady flags.isVerbose).append hcs hcounts tail]
    cases found with
    | some found =>
      have hbeyond := hcs.suffix ((readCounts_steady flags.isVerbose).suffix hcounts)
      exact (scanQuantifier_tame found.1).append hbeyond h tail
    | none =>
      obtain ⟨found, hconstraint, h⟩ := bind_eq_ok.1 h
      have happend : readConstraint flags (cs ++ stop :: tail) = _ :=
        readConstraint_append flags hcs hconstraint tail
      cases found with
      | some beyond =>
        obtain ⟨rfl, rfl⟩ := Prod.mk.inj (Except.ok.inj h)
        simp [bind, Except.bind, happend, pure, Except.pure]
      | none =>
        obtain ⟨rfl, rfl⟩ := Prod.mk.inj (Except.ok.inj h)
        simp [bind, Except.bind, happend, pure, Except.pure]
  free {cs action rest} h := by
    rw [scanBrace] at h
    obtain ⟨found, -, h⟩ := bind_eq_ok.1 h
    cases found with
    | some found => exact (scanQuantifier_tame found.1).free h
    | none =>
      obtain ⟨found, -, h⟩ := bind_eq_ok.1 h
      cases found with
      | some beyond =>
        obtain ⟨rfl, -⟩ := Prod.mk.inj (Except.ok.inj h)
        trivial
      | none =>
        obtain ⟨rfl, -⟩ := Prod.mk.inj (Except.ok.inj h)
        rfl

def closeFlags (verbose : Bool) (changed : Flags × Flags) : Scan := fun cs =>
  match accept verbose [':'] cs with
  | some rest => .ok (.change changed.1 changed.2 true, rest)
  | none =>
    match accept verbose [')'] cs with
    | some rest => .ok (.change changed.1 changed.2 false, rest)
    | none => fault .unknownExtension cs

theorem closeFlags_tame (changed : Flags × Flags) : Tame verbose (closeFlags verbose changed) where
  suffix {cs action rest} h := by
    rw [closeFlags] at h
    split at h
    · next beyond hacc =>
      obtain ⟨-, rfl⟩ := Prod.mk.inj (Except.ok.inj h)
      exact accept_suffix hacc
    · split at h
      · next beyond hacc =>
        obtain ⟨-, rfl⟩ := Prod.mk.inj (Except.ok.inj h)
        exact accept_suffix hacc
      · cases h
  append {_ _ cs action rest} hcs h tail := by
    rw [closeFlags] at h ⊢
    split at h
    · next beyond hacc =>
      obtain ⟨rfl, rfl⟩ := Prod.mk.inj (Except.ok.inj h)
      rw [accept_append_some hcs hacc]
    · next hcolon =>
      rw [accept_append_none hcs (by decide) hcolon]
      split at h
      · next beyond hacc =>
        obtain ⟨rfl, rfl⟩ := Prod.mk.inj (Except.ok.inj h)
        rw [accept_append_some hcs hacc]
      · cases h
  free {cs action rest} h := by
    rw [closeFlags] at h
    split at h
    · obtain ⟨rfl, -⟩ := Prod.mk.inj (Except.ok.inj h)
      trivial
    · split at h
      · obtain ⟨rfl, -⟩ := Prod.mk.inj (Except.ok.inj h)
        trivial
      · cases h

theorem scanFlags_tame : Tame verbose (scanFlags verbose) :=
  readFlagChange_steady.bind_tame closeFlags_tame

theorem named_tame (numeric : Bool) (word : String) (hword : word.toList ≠ [])
    (action : GroupName → Action) (haction : ∀ ref, (action ref).IsFree) :
    Tame verbose fun cs => readName verbose numeric cs >>= fun found =>
      expect verbose word found.2 >>= done (action found.1) where
  toSteady := .named numeric hword fun ref => .pure (action ref)
  free {cs action rest} h := by
    obtain ⟨found, -, h⟩ := bind_eq_ok.1 h
    obtain ⟨beyond, -, h⟩ := bind_eq_ok.1 h
    obtain ⟨rfl, -⟩ := Prod.mk.inj (Except.ok.inj h)
    exact haction _

def GroupName.name? : GroupName → Option String
  | .name s => some s
  | .number _ => none

theorem scanName_eq : scanName verbose cs = readName verbose false cs >>= fun found =>
    expect verbose ">" found.2 >>= done (.capture found.1.name?) := by
  rw [scanName]
  cases hname : readName verbose false cs with
  | error e => rfl
  | ok found =>
    obtain ⟨ref, beyond⟩ := found
    obtain ⟨s, rfl⟩ := nameOf_isName hname
    rfl

theorem scanName_tame : Tame verbose (scanName verbose) := by
  rw [show scanName verbose = _ from funext fun cs => scanName_eq]
  exact named_tame false ">" (by decide) (fun ref => .capture ref.name?) fun _ => trivial

theorem dropComment_steady : SteadySkip verbose Reader.dropComment where
  suffix {cs rest} h := by
    fun_induction Reader.dropComment cs with
    | case1 => cases h
    | case2 beyond =>
      obtain rfl := Except.ok.inj h
      exact List.suffix_cons _ _
    | case3 c beyond ih =>
      exact ((ih h).trans (List.suffix_cons c beyond)).trans (List.suffix_cons _ _)
    | case4 => cases h
    | case5 c beyond h1 h2 h3 ih => exact (ih h).trans (List.suffix_cons c beyond)
  append {_ _ cs rest} hcs h tail := by
    clear hcs
    fun_induction Reader.dropComment cs with
    | case1 => cases h
    | case2 beyond =>
      obtain rfl := Except.ok.inj h
      rfl
    | case3 c beyond ih => exact ih h
    | case4 => cases h
    | case5 c beyond hclose hpair hlast ih =>
      -- Neither half of an escaped pair begins here, since a pair would begin with a backslash.
      have hslash : c ≠ '\\' := by
        intro hc
        cases beyond with
        | nil => exact hlast hc rfl
        | cons d beyond => exact hpair d beyond hc rfl
      rw [List.cons_append, Reader.dropComment]
      · exact ih h
      · exact hclose
      · exact fun _ _ hc => absurd hc hslash
      · exact fun hc => absurd hc hslash

theorem SteadySkip.found {skip : List Char → Except Fault (List Char)} {action : Action}
    (h : SteadySkip verbose skip) (haction : action.IsFree) :
    Tame verbose fun cs => (skip cs).map fun rest => (action, rest) where
  suffix hread := by
    obtain ⟨beyond, hbeyond, hmap⟩ := map_eq_ok_iff.1 hread
    obtain ⟨-, rfl⟩ := Prod.mk.inj hmap
    exact h.suffix hbeyond
  append hsettled hread tail := by
    obtain ⟨beyond, hbeyond, hmap⟩ := map_eq_ok_iff.1 hread
    obtain ⟨rfl, rfl⟩ := Prod.mk.inj hmap
    exact map_eq_ok_iff.2 ⟨_, h.append hsettled hbeyond tail, rfl⟩
  free hread := by
    obtain ⟨beyond, -, hmap⟩ := map_eq_ok_iff.1 hread
    obtain ⟨rfl, -⟩ := Prod.mk.inj hmap
    exact haction

theorem expect_steady (word : String) : SteadySkip verbose (expect verbose word) where
  suffix h := expect_suffix h
  append hcs h := expect_append hcs h

theorem verbNode?_free {word : String} {n : Node} (h : verbNode? word = some n) :
    (Action.push n).IsFree := by
  unfold verbNode? at h
  split at h <;> simp at h
  all_goals
    subst h
    rfl

theorem verbWord_append_of_ne {cs : List Char} (more : List Char)
    (h : (verbWord verbose cs).2 ≠ []) :
    verbWord verbose (cs ++ more) = ((verbWord verbose cs).1, (verbWord verbose cs).2 ++ more) :=
  span_append_of_ne false more h

theorem scanVerb_tame : Tame verbose (scanVerb verbose) where
  suffix {cs action rest} h := by
    rw [scanVerb] at h
    split at h
    · next n hn =>
      exact (((expect_steady ")").found (verbNode?_free hn)).suffix h).trans
        (spanWhile_suffix _ _ _)
    · cases h
  append {_ _ cs action rest} hcs h tail := by
    have hexpect {n : Node} (h : (expect verbose ")" (verbWord verbose cs).2).map
        (fun rest => (Action.push n, rest)) = .ok (action, rest)) : (verbWord verbose cs).2 ≠ [] := by
      obtain ⟨beyond, hbeyond, -⟩ := map_eq_ok_iff.1 h
      exact expect_ne_nil (by decide) hbeyond
    rw [scanVerb] at h ⊢
    split at h
    · next n hn =>
      rw [verbWord_append_of_ne _ (hexpect h)]
      simp only [hn]
      exact ((expect_steady ")").found (verbNode?_free hn)).append
        (hcs.suffix (spanWhile_suffix _ _ _)) h tail
    · cases h
  free {cs action rest} h := by
    rw [scanVerb] at h
    split at h
    · next n hn => exact ((expect_steady ")").found (verbNode?_free hn)).free h
    · cases h

theorem isVerb_append (hcs : Settled verbose cs) (tail : List Char) :
    isVerb verbose (cs ++ stop :: tail) = isVerb verbose cs := by
  cases hn : next verbose cs with
  | none => simp [isVerb, hn, next_append_none hcs hn, stop_ne (show '*' ∉ stops by decide)]
  | some found =>
    obtain ⟨c, beyond⟩ := found
    have hword : (verbWord verbose (beyond ++ stop :: tail)).1.head?.any isLetter =
        (verbWord verbose beyond).1.head?.any isLetter :=
      span_head_append (by decide) tail false beyond (by simp) (hcs.suffix (next_rest_suffix hn))
        (by simp)
    by_cases hc : c = '*'
    · subst hc
      simp only [isVerb, hn, next_append_some hcs hn]
      exact hword
    · simp [isVerb, hn, next_append_some hcs hn, hc]

theorem isRelative_append (hcs : Settled verbose cs) (tail : List Char) :
    isRelative verbose (cs ++ stop :: tail) = isRelative verbose cs := by
  cases hn : next verbose cs with
  | none =>
    simp [isRelative, hn, next_append_none hcs hn, stop_ne (show '+' ∉ stops by decide),
      stop_ne (show '-' ∉ stops by decide)]
  | some found =>
    have hbeyond := hcs.suffix (next_rest_suffix hn)
    simp only [isRelative, hn, next_append_some hcs hn]
    cases hm : next verbose found.2 with
    | none => simp [next_append_none hbeyond hm, isDigit_stop]
    | some more => simp [next_append_some hbeyond hm]

theorem Tame.choose {test : List Char → Bool} {f g : Scan}
    (ht : ∀ {stop : Char} [IsStop stop] {cs}, Settled verbose cs → ∀ tail,
      test (cs ++ stop :: tail) = test cs)
    (hf : Tame verbose f) (hg : Tame verbose g) :
    Tame verbose fun cs => if test cs then f cs else g cs where
  suffix {cs action rest} h := by
    split at h
    · exact hf.suffix h
    · exact hg.suffix h
  append {_ _ cs action rest} hcs h tail := by
    rw [ht hcs]
    split at h
    · next hcond =>
      rw [if_pos hcond]
      exact hf.append hcs h tail
    · next hcond =>
      rw [if_neg hcond]
      exact hg.append hcs h tail
  free {cs action rest} h := by
    split at h
    · exact hf.free h
    · exact hg.free h

theorem placed_free {action : Action} (h : action.IsFree) (used : Nat) : (action.placed used).IsFree := by
  cases action <;> trivial

theorem placing_tame {scan : Scan} (h : Tame verbose scan) : Tame verbose (placing scan) where
  suffix hscan := by
    obtain ⟨found, hfound, hplaced⟩ := map_eq_ok_iff.1 hscan
    obtain ⟨-, rfl⟩ := Prod.mk.inj hplaced
    exact h.suffix hfound
  append hsettled hscan tail := by
    obtain ⟨found, hfound, hplaced⟩ := map_eq_ok_iff.1 hscan
    obtain ⟨rfl, rfl⟩ := Prod.mk.inj hplaced
    rw [placing, h.append hsettled hfound tail]
    -- What is put behind both texts leaves the distance between them as it is.
    simp only [Except.map, placed, List.length_append, Nat.add_sub_add_right]
  free hscan := by
    obtain ⟨found, hfound, hplaced⟩ := map_eq_ok_iff.1 hscan
    obtain ⟨rfl, -⟩ := Prod.mk.inj hplaced
    exact placed_free (h.free hfound) _

theorem scanCall_tame (ref : GroupName) : Tame verbose (scanCall verbose ref) where
  toSteady := .afterWord ")" (.pure _)
  free h := by
    obtain ⟨beyond, -, h⟩ := bind_eq_ok.1 h
    obtain ⟨rfl, -⟩ := Prod.mk.inj (Except.ok.inj h)
    trivial

theorem scanNamedCall_tame : Tame verbose (scanNamedCall verbose) :=
  named_tame false ")" (by decide) (.call · 0) fun _ => trivial

theorem digits_tame (scan : List Char → Scan) (h : ∀ ds, Tame verbose (scan ds)) :
    Tame verbose fun cs =>
      scan (spanWhile verbose Char.isDigit cs).1 (spanWhile verbose Char.isDigit cs).2 where
  suffix hscan := ((h _).suffix hscan).trans (spanWhile_suffix _ _ _)
  append hcs hscan tail := by
    rw [spanWhile_append (by decide) hcs]
    exact (h _).append (hcs.suffix (spanWhile_suffix _ _ _)) hscan tail
  free hscan := (h _).free hscan

theorem scanNumberedCall_tame (first : Char) : Tame verbose (scanNumberedCall verbose first) :=
  digits_tame (fun ds => scanCall verbose (.number (decimal (first :: ds)))) fun _ => scanCall_tame _

theorem scanRelativeCall_tame (forward : Bool) : Tame verbose (scanRelativeCall verbose forward) := by
  have hcall (offset : Nat) :
      Tame verbose fun cs => expect verbose ")" cs >>= done (.relative forward offset 0) := by
    refine ⟨.afterWord ")" (.pure _), fun h => ?_⟩
    obtain ⟨beyond, -, h⟩ := bind_eq_ok.1 h
    obtain ⟨rfl, -⟩ := Prod.mk.inj (Except.ok.inj h)
    trivial
  refine digits_tame (fun ds rest =>
    if ds.isEmpty then fault .missingRelativeNumber rest
    else expect verbose ")" rest >>= done (.relative forward (decimal ds) 0)) fun ds => ?_
  cases ds with
  | nil => exact fault_tame _
  | cons d ds => exact hcall _

theorem scanBack_tame : Tame verbose (scanBack verbose) :=
  named_tame true ")" (by decide) (.back · 0) fun _ => trivial

theorem scanCondition_tame : Tame verbose (scanCondition verbose) :=
  named_tame true ")" (by decide) (.condition · 0) fun _ => trivial

theorem behindWays_tame : TameWays verbose behindWays := by
  intro c
  unfold behindWays
  split
  · exact tame_way (done_tame trivial)
  · exact tame_way (done_tame trivial)
  · exact tame_noWay

theorem behindTestWays_tame : TameWays verbose behindTestWays := by
  intro c
  unfold behindTestWays
  split
  · exact tame_way (done_tame trivial)
  · exact tame_way (done_tame trivial)
  · exact tame_noWay

theorem testWays_tame : TameWays verbose (testWays verbose) := by
  intro c
  unfold testWays
  split
  · exact tame_way (done_tame trivial)
  · exact tame_way (done_tame trivial)
  · exact tame_way (byNext_tame (.inl (forall_stops rfl rfl)) behindTestWays_tame amiss_tame)
  · exact tame_noWay

theorem conditionWays_tame : TameWays verbose (conditionWays verbose) := by
  intro c
  unfold conditionWays
  split
  · exact tame_way (byNext_tame (.inl (forall_stops rfl rfl)) testWays_tame amiss_tame)
  · exact tame_noWay

theorem extensionWays_tame : TameWays verbose (extensionWays verbose) := by
  intro c
  unfold extensionWays
  split
  · exact tame_way scanName_tame
  · exact tame_noWay

theorem mentionWays_tame : TameWays verbose (mentionWays verbose) := by
  intro c
  unfold mentionWays
  split
  · exact tame_way scanBack_tame
  · exact tame_way scanNamedCall_tame
  · exact tame_way scanNamedCall_tame
  · exact tame_noWay

theorem scanExtension_tame : Tame verbose (scanExtension verbose) :=
  byNext_tame (.inl (forall_stops rfl rfl)) extensionWays_tame
    (placing_tame (byNext_tame (.inl (forall_stops rfl rfl)) mentionWays_tame amiss_tame))

theorem specialWays_tame : TameWays verbose (specialWays verbose) := by
  intro c
  unfold specialWays
  split
  · exact tame_way (byNext_tame (.inl (forall_stops rfl rfl)) behindWays_tame scanName_tame)
  · exact tame_way (done_tame trivial)
  · exact tame_way (done_tame trivial)
  · exact tame_way scanExtension_tame
  · exact tame_way (dropComment_steady.found trivial)
  · exact tame_way (byNext_tame (.inl (forall_stops rfl rfl)) conditionWays_tame
      (placing_tame scanCondition_tame))
  · exact tame_way (done_tame trivial)
  · exact tame_way (done_tame trivial)
  · exact tame_noWay

theorem callWays_tame : TameWays verbose (callWays verbose) := by
  intro c
  unfold callWays
  split
  · exact tame_way (scanCall_tame _)
  · exact tame_way scanNamedCall_tame
  · split
    · exact tame_way (scanNumberedCall_tame _)
    · exact tame_noWay

theorem signWays_tame : TameWays verbose (signWays verbose) := by
  intro c
  unfold signWays
  split
  · exact tame_way (scanRelativeCall_tame true)
  · exact tame_way (scanRelativeCall_tame false)
  · exact tame_noWay

theorem accept_of_none {w : Char} {word : List Char} (h : next verbose cs = none) :
    accept verbose (w :: word) cs = none := by
  rw [accept, h]

theorem scanFlags_none (h : next verbose cs = none) (found : Action × List Char) :
    scanFlags verbose cs ≠ .ok found := by
  have hflags (fuel : Nat) : readFlags verbose fuel cs = ([], cs) := by
    cases fuel with
    | zero => rfl
    | succ fuel => simp [readFlags, readFlag, h]
  have hchange : readFlagChange verbose cs = .ok (([], []), cs) := by
    simp [readFlagChange, hflags, accept_of_none h, bind, Except.bind, pure, Except.pure]
  rw [scanFlags, hchange]
  simp [bind, Except.bind, accept_of_none h, fault]

theorem scanSpecial_tame : Tame verbose (scanSpecial verbose) := by
  refine byNext_tame (.inr fun cs found hn hscan => ?_) specialWays_tame (placing_tame
    (byNext_tame (.inl (forall_stops rfl rfl)) callWays_tame
      (.choose isRelative_append
        (byNext_tame (.inl (forall_stops rfl rfl)) signWays_tame amiss_tame) scanFlags_tame)))
  have hrelative : isRelative verbose cs = false := by rw [isRelative, hn]
  rw [placing, byNext_otherwise fun c beyond h => absurd h (by simp [hn]), hrelative,
    if_neg Bool.false_ne_true] at hscan
  obtain ⟨found, hflags, -⟩ := map_eq_ok_iff.1 hscan
  exact scanFlags_none hn found hflags

theorem parenWays_tame : TameWays verbose (parenWays verbose) := by
  intro c
  unfold parenWays
  split
  · exact tame_way scanSpecial_tame
  · exact tame_noWay

theorem starWays_tame : TameWays verbose (starWays verbose) := by
  intro c
  unfold starWays
  split
  · exact tame_way scanVerb_tame
  · exact tame_noWay

theorem scanParen_tame : Tame verbose (scanParen verbose) :=
  byNext_tame (.inl (forall_stops rfl rfl)) parenWays_tame
    (.choose isVerb_append (byNext_tame (.inl (forall_stops rfl rfl)) starWays_tame amiss_tame)
      (done_tame trivial))

theorem scanEscape_tame (flags : Flags) : Tame flags.isVerbose (scanEscape flags) := by
  have hescape := readEscape_steady flags false
  rw [Bool.not_false, Bool.and_true] at hescape
  refine ⟨hescape.bind fun e => ?_, fun {cs action rest} h => ?_⟩
  · cases e <;> exact .pure _
  · obtain ⟨⟨e, beyond⟩, hread, h⟩ := bind_eq_ok.1 h
    by_cases href : ∃ ref, e = .reference ref
    · obtain ⟨ref, rfl⟩ := href
      obtain ⟨rfl, -⟩ := Prod.mk.inj (Except.ok.inj h)
      trivial
    · have hfree := toNode_free hread fun ref he => href ⟨ref, he⟩
      rw [pushEscape] at h
      · obtain ⟨rfl, -⟩ := Prod.mk.inj (Except.ok.inj h)
        exact hfree
      · exact fun ref he => href ⟨ref, he⟩

theorem scanSet_tame (flags : Flags) :
    Tame flags.isVerbose fun cs =>
      (readSet flags cs).map fun found => (Action.push found.1, found.2) where
  toSteady := (readSet_steady flags.isVerbose flags).map Action.push
  free h := by
    obtain ⟨found, hread, hmap⟩ := map_eq_ok_iff.1 h
    obtain ⟨rfl, -⟩ := Prod.mk.inj hmap
    exact readSet_free hread

theorem dot_free (flags : Flags) : (Reader.dot flags).isFree = true := by
  rw [Reader.dot]
  split
  · rfl
  · split <;> rfl

/-- Scanning uses up characters from the left, looks for no stop beyond them, and finds no node that
refers to a group. -/
theorem scan_tame (flags : Flags) (c : Char) : Tame flags.isVerbose (scan flags c) := by
  unfold scan
  split
  · exact done_tame trivial
  · exact done_tame trivial
  · exact scanParen_tame
  · exact scanEscape_tame flags
  · exact scanSet_tame flags
  · exact done_tame (dot_free flags)
  · exact done_tame rfl
  · exact done_tame rfl
  · exact scanQuantifier_tame _
  · exact scanQuantifier_tame _
  · exact scanQuantifier_tame _
  · exact scanBrace_tame flags
  · exact done_tame rfl

end
end ReleaseMatch.Pattern
