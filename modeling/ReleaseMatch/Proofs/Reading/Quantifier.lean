import ReleaseMatch.Pattern.Quantifier
import ReleaseMatch.Proofs.Reading.Bracket
set_option autoImplicit false

/-!
# Quantifiers and flags in front of a stop

Braces and flags are read from the left as escapes and sets are. Reading what may be a count or a
constraint can also find nothing, and it finds nothing in front of a stop as well: no count and no
constraint goes on with one.
-/
namespace ReleaseMatch.Pattern

variable {stop : Char} [IsStop stop]

/-- Reading that may find nothing, and finds the same in front of a stop. -/
structure SteadyMaybe {α : Type} (verbose : Bool)
    (read : List Char → Except Fault (Option (α × List Char))) : Prop where
  suffix : ∀ {cs x rest}, read cs = .ok (some (x, rest)) → rest <:+ cs
  append : ∀ {stop : Char} [IsStop stop] {cs found}, Settled verbose cs → read cs = .ok found → ∀ tail,
    read (cs ++ stop :: tail) = .ok (found.map fun f => (f.1, f.2 ++ stop :: tail))

/-! Counts -/

def readBounds (verbose : Bool) (cs : List Char) : Option (Counts × List Char) :=
  let (least, rest) := spanWhile verbose Char.isDigit cs
  match accept verbose [','] rest with
  | some rest =>
    let (most, rest) := spanWhile verbose Char.isDigit rest
    some (⟨decimal least, if most.isEmpty then none else some (decimal most)⟩, rest)
  | none =>
    if least.isEmpty then none else some (⟨decimal least, some (decimal least)⟩, rest)

theorem readCounts_eq (verbose : Bool) (cs : List Char) :
    readCounts verbose cs =
      match readBounds verbose cs with
      | none => .ok none
      | some (counts, rest) =>
        match accept verbose ['\x7d'] rest with
        | none => .ok none
        | some rest =>
          if maxCount ≤ counts.least || counts.most.any (maxCount ≤ ·) then fault .repeatTooBig cs
          else if counts.most.any (· < counts.least) then fault .leastAboveMost cs
          else .ok (some (counts, rest)) :=
  rfl

theorem readBounds_suffix {verbose : Bool} {cs rest : List Char} {counts : Counts}
    (h : readBounds verbose cs = some (counts, rest)) : rest <:+ cs := by
  have hleast := spanWhile_suffix verbose Char.isDigit cs
  simp only [readBounds] at h
  split at h
  · next beyond hacc =>
    obtain ⟨-, rfl⟩ := Prod.mk.inj (Option.some.inj h)
    exact (spanWhile_suffix _ _ _).trans ((accept_suffix hacc).trans hleast)
  · split at h
    · exact absurd h (by simp)
    · obtain ⟨-, rfl⟩ := Prod.mk.inj (Option.some.inj h)
      exact hleast

theorem readBounds_append {verbose : Bool} {cs : List Char} (hcs : Settled verbose cs)
    (tail : List Char) :
    readBounds verbose (cs ++ stop :: tail) =
      (readBounds verbose cs).map fun f => (f.1, f.2 ++ stop :: tail) := by
  have hrest := hcs.suffix (spanWhile_suffix verbose Char.isDigit cs)
  simp only [readBounds]
  rw [spanWhile_append (by decide) hcs]
  dsimp only
  cases hacc : accept verbose [','] (spanWhile verbose Char.isDigit cs).2 with
  | some beyond =>
    rw [accept_append_some hrest hacc]
    dsimp only
    rw [spanWhile_append (by decide) (hrest.suffix (accept_suffix hacc))]
    rfl
  | none =>
    rw [accept_append_none hrest (by decide) hacc]
    dsimp only
    split <;> rfl

theorem readCounts_steady (verbose : Bool) : SteadyMaybe verbose (readCounts verbose) where
  suffix {cs counts rest} h := by
    rw [readCounts_eq] at h
    split at h
    · exact absurd h (by simp)
    · next counts' beyond hbounds =>
      split at h
      · exact absurd h (by simp)
      · next past hacc =>
        split at h
        · exact absurd h (by simp [fault])
        · split at h
          · exact absurd h (by simp [fault])
          · obtain ⟨-, rfl⟩ := by simpa using h
            exact (accept_suffix hacc).trans (readBounds_suffix hbounds)
  append {_ _ cs found} hcs h tail := by
    rw [readCounts_eq] at h ⊢
    rw [readBounds_append hcs]
    split at h
    · next hbounds =>
      obtain rfl := Except.ok.inj h
      rw [hbounds]
      rfl
    · next counts beyond hbounds =>
      have hbeyond := hcs.suffix (readBounds_suffix hbounds)
      rw [hbounds]
      simp only [Option.map_some]
      split at h
      · next hacc =>
        obtain rfl := Except.ok.inj h
        rw [accept_append_none hbeyond (by decide) hacc]
        rfl
      · next past hacc =>
        rw [accept_append_some hbeyond hacc]
        dsimp only
        split at h
        · exact absurd h (by simp [fault])
        · next hbig =>
          split at h
          · exact absurd h (by simp [fault])
          · next hless =>
            obtain rfl := Except.ok.inj h
            rw [if_neg hbig, if_neg hless]
            rfl

/-! Flags -/

section

variable {verbose : Bool} {cs : List Char}

theorem readFlag_suffix {f : Flag} {rest : List Char} (h : readFlag verbose cs = some (f, rest)) :
    rest <:+ cs := by
  rw [readFlag.eq_def] at h
  split at h
  · next beyond hn =>
    split at h
    · next past hn' =>
      obtain ⟨-, rfl⟩ := Prod.mk.inj (Option.some.inj h)
      exact (next_rest_suffix hn').trans (next_rest_suffix hn)
    · next past hn' =>
      obtain ⟨-, rfl⟩ := Prod.mk.inj (Option.some.inj h)
      exact (next_rest_suffix hn').trans (next_rest_suffix hn)
    · exact absurd h (by simp)
  · next c beyond hn =>
    obtain ⟨f', -, hf⟩ := Option.map_eq_some_iff.1 h
    obtain ⟨-, rfl⟩ := Prod.mk.inj hf
    exact next_rest_suffix hn
  · exact absurd h (by simp)

theorem readFlag_length {f : Flag} {rest : List Char} (h : readFlag verbose cs = some (f, rest)) :
    rest.length < cs.length := by
  cases hn : next verbose cs with
  | none => exact absurd h (by simp [readFlag, hn])
  | some found =>
    have hlt := next_length hn
    rw [readFlag.eq_def, hn] at h
    split at h
    · next beyond heq =>
      obtain ⟨-, rfl⟩ := Prod.mk.inj (Option.some.inj heq)
      split at h
      · next past hn' =>
        obtain ⟨-, rfl⟩ := Prod.mk.inj (Option.some.inj h)
        exact Nat.lt_trans (next_length hn') hlt
      · next past hn' =>
        obtain ⟨-, rfl⟩ := Prod.mk.inj (Option.some.inj h)
        exact Nat.lt_trans (next_length hn') hlt
      · exact absurd h (by simp)
    · next c beyond heq =>
      obtain ⟨f', -, hf⟩ := Option.map_eq_some_iff.1 h
      obtain ⟨-, rfl⟩ := Prod.mk.inj hf
      obtain ⟨-, rfl⟩ := Prod.mk.inj (Option.some.inj heq)
      exact hlt
    · exact absurd h (by simp)

theorem readFlag_append (hcs : Settled verbose cs) (tail : List Char) :
    readFlag verbose (cs ++ stop :: tail) =
      (readFlag verbose cs).map fun f => (f.1, f.2 ++ stop :: tail) := by
  cases hn : next verbose cs with
  | none =>
    have hflag : Flag.ofLetter? stop = none :=
      (by decide : ∀ c ∈ stops, Flag.ofLetter? c = none) stop IsStop.mem
    simp [readFlag, hn, next_append_none hcs hn, hflag, stop_ne (show 'V' ∉ stops by decide)]
  | some found =>
    obtain ⟨c, rest⟩ := found
    have hrest := hcs.suffix (next_rest_suffix hn)
    by_cases hc : c = 'V'
    · subst hc
      simp only [readFlag, hn, next_append_some hcs hn]
      cases hn' : next verbose rest with
      | none =>
        simp [next_append_none hrest hn', stop_ne (show '0' ∉ stops by decide),
          stop_ne (show '1' ∉ stops by decide)]
      | some found =>
        obtain ⟨d, past⟩ := found
        rw [next_append_some hrest hn']
        by_cases h0 : d = '0'
        · subst h0
          rfl
        · by_cases h1 : d = '1'
          · subst h1
            rfl
          · simp [h0, h1]
    · simp [readFlag, hn, next_append_some hcs hn, Option.map_map, Function.comp_def]

theorem readFlags_suffix (verbose : Bool) (fuel : Nat) (cs : List Char) :
    (readFlags verbose fuel cs).2 <:+ cs := by
  induction fuel generalizing cs with
  | zero => exact List.suffix_rfl
  | succ fuel ih =>
    rw [readFlags]
    split
    · next f rest hf => exact (ih rest).trans (readFlag_suffix hf)
    · exact List.suffix_rfl

theorem readFlags_append (hcs : Settled verbose cs) {fuel more : Nat} (hfuel : cs.length ≤ fuel)
    (hmore : cs.length ≤ more) (tail : List Char) :
    readFlags verbose more (cs ++ stop :: tail) =
      ((readFlags verbose fuel cs).1, (readFlags verbose fuel cs).2 ++ stop :: tail) := by
  induction fuel generalizing cs more with
  | zero =>
    obtain rfl : cs = [] := List.length_eq_zero_iff.1 (by omega)
    cases more with
    | zero => rfl
    | succ more =>
      have hnone : readFlag verbose [] = none := by cases verbose <;> rfl
      have happend : readFlag verbose (stop :: tail) = _ := readFlag_append hcs tail
      rw [hnone] at happend
      simp [readFlags, happend]
  | succ fuel ih =>
    cases hf : readFlag verbose cs with
    | none =>
      cases more with
      | zero => simp [readFlags, hf]
      | succ more => simp [readFlags, readFlag_append hcs tail, hf]
    | some found =>
      obtain ⟨f, rest⟩ := found
      have hlt := readFlag_length hf
      cases more with
      | zero => omega
      | succ more =>
        have hrec := ih (hcs.suffix (readFlag_suffix hf)) (by omega : rest.length ≤ fuel)
          (by omega : rest.length ≤ more)
        simp [readFlags, readFlag_append hcs tail, hf, hrec]

def readOff (verbose : Bool) (cs : List Char) : Except Fault (Flags × List Char) :=
  match accept verbose ['-'] cs with
  | none => .ok ([], cs)
  | some rest =>
    match readFlags verbose rest.length rest with
    | ([], rest) => fault .noFlagsOff rest
    | found => .ok found

theorem readOff_steady : Steady verbose (readOff verbose) where
  suffix {cs off rest} h := by
    rw [readOff] at h
    split at h
    · obtain ⟨-, rfl⟩ := by simpa using h
      exact List.suffix_rfl
    · next beyond hacc =>
      have hflags := readFlags_suffix verbose beyond.length beyond
      split at h
      · exact absurd h (by simp [fault])
      · next heq =>
        rw [Except.ok.inj h] at hflags
        exact hflags.trans (accept_suffix hacc)
  append {_ _ cs off rest} hcs h tail := by
    rw [readOff] at h ⊢
    split at h
    · next hacc =>
      obtain ⟨rfl, rfl⟩ := by simpa using h
      rw [accept_append_none hcs (by decide) hacc]
    · next beyond hacc =>
      rw [accept_append_some hcs hacc]
      dsimp only
      rw [readFlags_append (hcs.suffix (accept_suffix hacc)) (Nat.le_refl _) (by simp)]
      split at h
      · exact absurd h (by simp [fault])
      · next heq =>
        rw [Except.ok.inj h]
        have hne : off ≠ [] := by
          rintro rfl
          exact heq rest (Except.ok.inj h)
        cases off with
        | nil => exact absurd rfl hne
        | cons f off => rfl

theorem readFlagChange_eq (cs : List Char) :
    readFlagChange verbose cs =
      readOff verbose (readFlags verbose cs.length cs).2 >>= fun found =>
        if found.1.any (·.isGlobal) then fault .globalFlagOff found.2
        else if (readFlags verbose cs.length cs).1.any found.1.contains then
          fault .flagOnAndOff found.2
        else .ok (((readFlags verbose cs.length cs).1, found.1), found.2) := by
  simp only [readFlagChange, readOff]
  cases accept verbose ['-'] (readFlags verbose cs.length cs).2 with
  | none => rfl
  | some rest =>
    dsimp only
    generalize readFlags verbose rest.length rest = found
    obtain ⟨off, beyond⟩ := found
    cases off <;> rfl

theorem readFlagChange_steady : Steady verbose (readFlagChange verbose) where
  suffix {cs change rest} h := by
    rw [readFlagChange_eq] at h
    obtain ⟨⟨off, beyond⟩, hoff, h⟩ := bind_eq_ok.1 h
    have hsuffix := (readOff_steady.suffix hoff).trans (readFlags_suffix verbose cs.length cs)
    split at h
    · exact absurd h (by simp [fault])
    · split at h
      · exact absurd h (by simp [fault])
      · obtain ⟨-, rfl⟩ := by simpa using h
        exact hsuffix
  append {_ _ cs change rest} hcs h tail := by
    rw [readFlagChange_eq] at h ⊢
    obtain ⟨⟨off, beyond⟩, hoff, h⟩ := bind_eq_ok.1 h
    have hflags := hcs.suffix (readFlags_suffix verbose cs.length cs)
    rw [readFlags_append hcs (Nat.le_refl _) (by simp), readOff_steady.append hflags hoff]
    simp only [bind, Except.bind]
    split at h
    · exact absurd h (by simp [fault])
    · next hglobal =>
      split at h
      · exact absurd h (by simp [fault])
      · next hboth =>
        obtain ⟨rfl, rfl⟩ := by simpa using h
        rw [if_neg hglobal, if_neg hboth]

end

/-! Constraints -/

namespace Attempt

variable {α β : Type} {verbose : Bool}

def on (a : Attempt α) (cs : List Char) : Except Fault (Option (α × List Char)) := a cs

theorem on_bind (a : Attempt α) (f : α → Attempt β) (cs : List Char) :
    (a >>= f).on cs =
      match a.on cs with
      | .ok (some (x, rest)) => (f x).on rest
      | .ok none => .ok none
      | .error e => .error e := by
  change (a cs : Except Fault (Option (α × List Char))) >>= _ = _
  rw [on]
  cases (a cs : Except Fault (Option (α × List Char))) with
  | error e => rfl
  | ok found =>
    cases found with
    | none => rfl
    | some found => rfl

theorem on_orElse (a b : Attempt α) (cs : List Char) :
    (a <|> b).on cs =
      match a.on cs with
      | .ok none => b.on cs
      | found => found := by
  change (OptionT.orElse (a cs) fun _ => b cs : OptionT (Except Fault) (α × List Char)) = _
  rw [on, on]
  cases (a cs : Except Fault (Option (α × List Char))) with
  | error e => rfl
  | ok found =>
    cases found with
    | none => rfl
    | some found => rfl

theorem on_char (verbose : Bool) (cs : List Char) :
    (char verbose).on cs = .ok (next verbose cs) := by
  rw [on, char]
  cases next verbose cs <;> rfl

theorem on_refuseAt (cause : Cause) (place cs : List Char) :
    (refuseAt cause place : Attempt α).on cs = .error ⟨cause, place.length⟩ :=
  rfl

abbrev IsSteady (verbose : Bool) (a : Attempt α) : Prop := SteadyMaybe verbose a.on

namespace IsSteady

theorem pure (x : α) : IsSteady verbose (Pure.pure x : Attempt α) where
  suffix {cs y rest} h := by
    obtain ⟨-, rfl⟩ := Prod.mk.inj (Option.some.inj (Except.ok.inj h))
    exact List.suffix_rfl
  append {_ _ cs found} _ h tail := by
    obtain rfl := Except.ok.inj h
    rfl

theorem nothing : IsSteady verbose (Attempt.nothing : Attempt α) where
  suffix h := absurd (Except.ok.inj h) (by simp)
  append _ h tail := by
    obtain rfl := Except.ok.inj h
    rfl

theorem refuseAt {cause : Cause} {place : List Char} :
    IsSteady verbose (Attempt.refuseAt cause place : Attempt α) where
  suffix h := by
    rw [on_refuseAt] at h
    exact absurd h (by simp)
  append _ h := by
    rw [on_refuseAt] at h
    exact absurd h (by simp)

theorem refuse {cause : Cause} : IsSteady verbose (Attempt.refuse cause : Attempt α) where
  suffix {cs _ _} h := by
    rw [show (Attempt.refuse cause : Attempt α).on cs = .error ⟨cause, cs.length⟩ from rfl] at h
    cases h
  append {_ _ cs _} _ h := by
    rw [show (Attempt.refuse cause : Attempt α).on cs = .error ⟨cause, cs.length⟩ from rfl] at h
    cases h

theorem bind {a : Attempt α} {f : α → Attempt β} (ha : IsSteady verbose a)
    (hf : ∀ x, IsSteady verbose (f x)) : IsSteady verbose (a >>= f) where
  suffix {cs y rest} h := by
    rw [on_bind] at h
    split at h
    · next x beyond hx => exact ((hf x).suffix h).trans (ha.suffix hx)
    · exact absurd (Except.ok.inj h) (by simp)
    · exact absurd h (by simp)
  append {_ _ cs found} hcs h tail := by
    rw [on_bind] at h ⊢
    split at h
    · next x beyond hx =>
      rw [ha.append hcs hx tail]
      exact (hf x).append (hcs.suffix (ha.suffix hx)) h tail
    · next hx =>
      obtain rfl := Except.ok.inj h
      rw [ha.append hcs hx tail]
      rfl
    · exact absurd h (by simp)

theorem orElse {a b : Attempt α} (ha : IsSteady verbose a) (hb : IsSteady verbose b) :
    IsSteady verbose (a <|> b) where
  suffix {cs y rest} h := by
    rw [on_orElse] at h
    split at h
    · exact hb.suffix h
    · exact ha.suffix h
  append {_ _ cs found} hcs h tail := by
    rw [on_orElse] at h ⊢
    split at h
    · next hnone =>
      rw [ha.append hcs hnone tail]
      exact hb.append hcs h tail
    · next hsome =>
      rw [ha.append hcs h tail]
      cases found with
      | none => exact absurd h hsome
      | some found => rfl

theorem ite {p : Prop} [Decidable p] {a b : Attempt α} (ha : IsSteady verbose a)
    (hb : IsSteady verbose b) : IsSteady verbose (if p then a else b) := by
  by_cases h : p
  · rwa [if_pos h]
  · rwa [if_neg h]

theorem accepts {word : List Char} (hword : ∀ c ∈ stops, c ∉ word) :
    IsSteady verbose (Attempt.accepts verbose word) where
  suffix {cs found rest} h := by
    rw [on, Attempt.accepts] at h
    split at h
    · next beyond hacc =>
      obtain ⟨-, rfl⟩ := Prod.mk.inj (Option.some.inj (Except.ok.inj h))
      exact accept_suffix hacc
    · obtain ⟨-, rfl⟩ := Prod.mk.inj (Option.some.inj (Except.ok.inj h))
      exact List.suffix_rfl
  append {_ _ cs found} hcs h tail := by
    rw [on, Attempt.accepts] at h ⊢
    split at h
    · next beyond hacc =>
      obtain rfl := Except.ok.inj h
      rw [accept_append_some hcs hacc]
      rfl
    · next hacc =>
      obtain rfl := Except.ok.inj h
      rw [accept_append_none hcs hword hacc]
      rfl

theorem digits : IsSteady verbose (Attempt.digits verbose) where
  suffix {cs found rest} h := by
    have hspan := spanWhile_suffix verbose Char.isDigit cs
    rw [Option.some.inj (Except.ok.inj h)] at hspan
    exact hspan
  append {_ _ cs found} hcs h tail := by
    obtain rfl := Except.ok.inj h
    rw [on, Attempt.digits, spanWhile_append (by decide) hcs]
    rfl

theorem char {f : Char → Attempt α} (hf : ∀ c, IsSteady verbose (f c))
    (hstop : ∀ c ∈ stops, ∀ cs, (f c).on cs = .ok none) : IsSteady verbose (Attempt.char verbose >>= f) where
  suffix {cs found rest} h := by
    rw [on_bind, on, Attempt.char] at h
    cases hn : next verbose cs with
    | none => exact absurd h (by rw [hn]; exact fun h => absurd (Except.ok.inj h) (by simp))
    | some first =>
      rw [hn] at h
      exact ((hf first.1).suffix h).trans (next_rest_suffix hn)
  append {_ _ cs found} hcs h tail := by
    rw [on_bind, on, Attempt.char] at h ⊢
    cases hn : next verbose cs with
    | none =>
      rw [hn] at h
      obtain rfl := Except.ok.inj h
      rw [next_append_none hcs hn]
      exact hstop _ IsStop.mem tail
    | some first =>
      rw [hn] at h
      rw [next_append_some hcs hn]
      exact (hf first.1).append (hcs.suffix (next_rest_suffix hn)) h tail

/-- What is read is refused if it is bad, with a report of the place before it. -/
theorem checked {a : Attempt α} (ha : IsSteady verbose a) (cause : Cause) (bad : α → Bool)
    (g : α → β) :
    IsSteady verbose (do
      let place ← get
      let x ← a
      if bad x then Attempt.refuseAt cause place else return g x) := by
  have hinner (place : List Char) :
      IsSteady verbose (a >>= fun x => if bad x then Attempt.refuseAt cause place else return g x) :=
    .bind ha fun x => .ite .refuseAt (.pure _)
  -- Where the place is reported nothing is read, so that any other place does as well.
  have hsame (p q cs : List Char) (found : Option (β × List Char))
      (h : (a >>= fun x => if bad x then Attempt.refuseAt cause p else return g x).on cs =
        .ok found) :
      (a >>= fun x => if bad x then Attempt.refuseAt cause q else return g x).on cs = .ok found := by
    rw [on_bind] at h ⊢
    split at h
    · next x rest _ =>
      by_cases hbad : bad x = true
      · rw [if_pos hbad, on_refuseAt] at h
        exact absurd h (by simp)
      · rw [if_neg hbad] at h ⊢
        exact h
    · exact h
    · exact h
  exact ⟨fun {cs _ _} h => (hinner cs).suffix h,
    fun {_ _ cs _} hcs h tail => hsame _ _ _ _ ((hinner cs).append hcs h tail)⟩

end IsSteady
end Attempt

section

variable {verbose : Bool}

open Attempt

theorem readComparison_steady : IsSteady verbose (readComparison verbose) := by
  rw [readComparison]
  refine .bind (.accepts (by decide)) fun both => ?_
  refine .ite (.pure _) (.bind (.accepts (by decide)) fun less => ?_)
  exact .ite (.pure _) (.pure _)

theorem readCost_steady : IsSteady verbose (readCost verbose) :=
  .checked .digits .badCost List.isEmpty decimal

theorem readErrorKind_steady (limited : Limited) (c : Char) :
    IsSteady verbose (readErrorKind limited c) := by
  rw [readErrorKind]
  exact .ite (.pure _) .nothing

def readKindLimit (verbose : Bool) (limited : Limited) (c : Char) : Attempt Limited := do
  let kind ← readErrorKind limited c
  match ← readComparison verbose with
  | none => return kind :: limited
  | some inclusive =>
    let place ← get
    let most ← readCost verbose
    if !inclusive && most = 0 then refuseAt .badCost place else return kind :: limited

theorem readKindLimit_steady (limited : Limited) (c : Char) :
    IsSteady verbose (readKindLimit verbose limited c) := by
  rw [readKindLimit]
  refine .bind (readErrorKind_steady limited c) fun kind => .bind readComparison_steady ?_
  intro comparison
  cases comparison with
  | none => exact .pure _
  | some inclusive => exact .checked readCost_steady .badCost (fun most => !inclusive && most = 0) _

def readRangeLimit (verbose : Bool) (limited : Limited) : Attempt Limited := do
  let least ← readCost verbose
  let some fromInclusive ← readComparison verbose | nothing
  let kind ← readErrorKind limited (← char verbose)
  let some toInclusive ← readComparison verbose | nothing
  let place ← get
  let most ← readCost verbose
  let least := if fromInclusive then least else least + 1
  if (!toInclusive && most = 0) || (if toInclusive then most else most - 1) < least then
    refuseAt .badCost place
  else return kind :: limited

theorem readRangeLimit_steady (limited : Limited) :
    IsSteady verbose (readRangeLimit verbose limited) := by
  rw [readRangeLimit]
  refine .bind readCost_steady fun least => .bind readComparison_steady fun start => ?_
  cases start with
  | none => exact .nothing
  | some fromInclusive =>
    refine .char (fun c => .bind (readErrorKind_steady limited c) fun kind =>
      .bind readComparison_steady fun stop => ?_) (forall_stops (fun cs => rfl) fun cs => rfl)
    cases stop with
    | none => exact .nothing
    | some toInclusive =>
      exact .checked readCost_steady .badCost (fun most => (!toInclusive && most = 0) ||
        (if toInclusive then most else most - 1) <
          (if fromInclusive then least else least + 1)) _

/-- A number starts a limit below a kind, and is read again as a cost. -/
theorem on_readLimit (limited : Limited) (cs : List Char) :
    (readLimit verbose limited).on cs =
      match next verbose cs with
      | none => .ok none
      | some (c, rest) =>
        if isAsciiLetter c then (readKindLimit verbose limited c).on rest
        else if c.isDigit then (readRangeLimit verbose limited).on cs
        else .ok none := by
  rw [readLimit, on_bind]
  change (char verbose >>= fun c => _ : Attempt Limited).on cs = _
  rw [on_bind, on_char]
  cases next verbose cs with
  | none => rfl
  | some found =>
    obtain ⟨c, rest⟩ := found
    dsimp only
    by_cases hletter : isAsciiLetter c = true
    · rw [if_pos hletter, if_pos hletter]
      rfl
    · rw [if_neg hletter, if_neg hletter]
      by_cases hdigit : c.isDigit = true
      · rw [if_pos hdigit, if_pos hdigit]
        rfl
      · rw [if_neg hdigit, if_neg hdigit]
        rfl

theorem readLimit_steady (limited : Limited) : IsSteady verbose (readLimit verbose limited) where
  suffix {cs found rest} h := by
    rw [on_readLimit] at h
    split at h
    · exact absurd (Except.ok.inj h) (by simp)
    · next c beyond hn =>
      split at h
      · exact ((readKindLimit_steady limited c).suffix h).trans (next_rest_suffix hn)
      · split at h
        · exact (readRangeLimit_steady limited).suffix h
        · exact absurd (Except.ok.inj h) (by simp)
  append {stop _ cs found} hcs h tail := by
    rw [on_readLimit] at h ⊢
    split at h
    · next hn =>
      obtain rfl := Except.ok.inj h
      have hletter : isAsciiLetter stop = false :=
        (by decide : ∀ c ∈ stops, isAsciiLetter c = false) stop IsStop.mem
      rw [next_append_none hcs hn]
      dsimp only
      rw [if_neg (by rw [hletter]; exact Bool.false_ne_true),
        if_neg (by rw [isDigit_stop]; exact Bool.false_ne_true)]
      rfl
    · next c beyond hn =>
      rw [next_append_some hcs hn]
      dsimp only
      split at h
      · next hletter =>
        rw [if_pos hletter]
        exact (readKindLimit_steady limited c).append (hcs.suffix (next_rest_suffix hn)) h tail
      · next hletter =>
        rw [if_neg hletter]
        split at h
        · next hdigit =>
          rw [if_pos hdigit]
          exact (readRangeLimit_steady limited).append hcs h tail
        · next hdigit =>
          obtain rfl := Except.ok.inj h
          rw [if_neg hdigit]
          rfl

theorem readCostTerms_steady (fuel : Nat) (seen : List Char) :
    IsSteady verbose (readCostTerms verbose fuel seen) := by
  induction fuel generalizing seen with
  | zero => exact .nothing
  | succ fuel ih =>
    rw [readCostTerms]
    refine .bind .digits fun _ => .char (fun c => .ite .nothing (.ite .refuse ?_))
      (forall_stops (fun cs => rfl) fun cs => rfl)
    exact .bind (.accepts (by decide)) fun more => .ite (ih _) (.pure _)

theorem readCostEquation_steady (limited : Limited) :
    IsSteady verbose (readCostEquation verbose limited) := by
  have hterms : IsSteady verbose (do
      readCostTerms verbose 4 []
      let some inclusive ← readComparison verbose | nothing
      let ds ← digits verbose
      if ds.isEmpty then nothing
      else if !inclusive && decimal ds = 0 then refuse .badCost
      else return '+' :: limited) := by
    refine .bind (readCostTerms_steady 4 []) fun _ => .bind readComparison_steady fun found => ?_
    cases found with
    | none => exact .nothing
    | some inclusive => exact .bind .digits fun ds => .ite .nothing (.ite .refuse (.pure _))
  rw [readCostEquation]
  exact .ite (.bind .refuse fun _ => hterms) hterms

theorem on_readLimits_succ (fuel : Nat) (limited : Limited) (cs : List Char) :
    (readLimits verbose (fuel + 1) limited).on cs =
      match (readLimit verbose limited <|> readCostEquation verbose limited).on cs with
      | .ok (some (limited, rest)) =>
        match accept verbose [','] rest with
        | some beyond => (readLimits verbose fuel limited).on beyond
        | none => .ok (some ((), rest))
      | .ok none => .ok none
      | .error e => .error e := by
  rw [readLimits, on_bind]
  cases (readLimit verbose limited <|> readCostEquation verbose limited).on cs with
  | error e => rfl
  | ok found =>
    cases found with
    | none => rfl
    | some found =>
      obtain ⟨limited, rest⟩ := found
      dsimp only
      rw [on_bind, on, accepts]
      cases accept verbose [','] rest with
      | none => rfl
      | some beyond => rfl

/-- Each limit but the last one has a comma after it, so that the bound is never met. -/
theorem readLimits_steady (verbose : Bool) (fuel : Nat) (limited : Limited) {cs : List Char}
    (hfuel : cs.length < fuel) :
    (∀ rest, (readLimits verbose fuel limited).on cs = .ok (some ((), rest)) → rest <:+ cs) ∧
      (Settled verbose cs → ∀ found, (readLimits verbose fuel limited).on cs = .ok found →
        ∀ {stop : Char} [IsStop stop] more tail, fuel ≤ more →
          (readLimits verbose more limited).on (cs ++ stop :: tail) =
          .ok (found.map fun f => (f.1, f.2 ++ stop :: tail))) := by
  -- Both parts go on behind a comma, with fewer characters and one step less.
  induction fuel generalizing limited cs with
  | zero => omega
  | succ fuel ih =>
    have hlimit : IsSteady verbose (readLimit verbose limited <|> readCostEquation verbose limited) :=
      .orElse (readLimit_steady limited) (readCostEquation_steady limited)
    constructor
    · intro rest h
      rw [on_readLimits_succ] at h
      split at h
      · next limited' beyond hfirst =>
        have hsuffix := hlimit.suffix hfirst
        split at h
        · next past hacc =>
          have hlt := accept_length hacc
          have hle := hsuffix.length_le
          exact ((ih limited' (by omega)).1 rest h).trans ((accept_suffix hacc).trans hsuffix)
        · obtain ⟨-, rfl⟩ := Prod.mk.inj (Option.some.inj (Except.ok.inj h))
          exact hsuffix
      · exact absurd (Except.ok.inj h) (by simp)
      · exact absurd h (by simp)
    · intro hcs found h stop _ more tail hmore
      obtain ⟨more, rfl⟩ : ∃ n, more = n + 1 := ⟨more - 1, by omega⟩
      rw [on_readLimits_succ] at h ⊢
      split at h
      · next limited' beyond hfirst =>
        have hsuffix := hlimit.suffix hfirst
        rw [hlimit.append hcs hfirst tail]
        dsimp only [Option.map_some]
        split at h
        · next past hacc =>
          have hlt := accept_length hacc
          have hle := hsuffix.length_le
          rw [accept_append_some (hcs.suffix hsuffix) hacc]
          exact (ih limited' (by omega)).2 (hcs.suffix ((accept_suffix hacc).trans hsuffix)) found h
            more tail (by omega)
        · next hacc =>
          obtain rfl := Except.ok.inj h
          rw [accept_append_none (hcs.suffix hsuffix) (by decide) hacc]
          rfl
      · next hfirst =>
        obtain rfl := Except.ok.inj h
        rw [hlimit.append hcs hfirst tail]
        rfl
      · exact absurd h (by simp)

end

/-- Reading of which only the end matters. -/
structure SteadySkip (verbose : Bool) (skip : List Char → Except Fault (List Char)) : Prop where
  suffix : ∀ {cs rest}, skip cs = .ok rest → rest <:+ cs
  append : ∀ {stop : Char} [IsStop stop] {cs rest}, Settled verbose cs → skip cs = .ok rest → ∀ tail,
    skip (cs ++ stop :: tail) = .ok (rest ++ stop :: tail)

theorem Steady.skip {α : Type} {verbose : Bool} {read : List Char → Except Fault (α × List Char)}
    (h : Steady verbose read) : SteadySkip verbose fun cs => (read cs).map (·.2) where
  suffix hread := by
    obtain ⟨found, hfound, rfl⟩ := map_eq_ok_iff.1 hread
    exact h.suffix hfound
  append hsettled hread tail := by
    obtain ⟨found, hfound, rfl⟩ := map_eq_ok_iff.1 hread
    exact map_eq_ok_iff.2 ⟨_, h.append hsettled hfound tail, rfl⟩

theorem readSubstitutes_steady (flags : Flags) :
    SteadySkip flags.isVerbose (readSubstitutes flags) := by
  have hescape := (readEscape_steady flags false).skip
  rw [Bool.not_false, Bool.and_true] at hescape
  have hset := (readSet_steady flags.isVerbose flags).skip
  constructor
  · intro cs rest h
    rw [readSubstitutes] at h
    split at h
    · exact absurd h (by simp [fault])
    · next c beyond hn =>
      have hsuffix := next_rest_suffix hn
      split at h
      · exact (hescape.suffix h).trans hsuffix
      · split at h
        · exact (hset.suffix h).trans hsuffix
        · split at h
          · rwa [← Except.ok.inj h]
          · split at h
            · exact absurd h (by simp [fault])
            · rwa [← Except.ok.inj h]
  · intro stop _ cs rest hcs h tail
    rw [readSubstitutes] at h ⊢
    split at h
    · exact absurd h (by simp [fault])
    · next c beyond hn =>
      have hbeyond := hcs.suffix (next_rest_suffix hn)
      rw [next_append_some hcs hn]
      dsimp only
      split at h
      · next hslash =>
        rw [if_pos hslash]
        exact hescape.append hbeyond h tail
      · next hslash =>
        rw [if_neg hslash]
        split at h
        · next hopen =>
          rw [if_pos hopen]
          exact hset.append hbeyond h tail
        · next hopen =>
          rw [if_neg hopen]
          split at h
          · next hdot =>
            rw [if_pos hdot, Except.ok.inj h]
          · next hdot =>
            rw [if_neg hdot]
            split at h
            · exact absurd h (by simp [fault])
            · next hplain => rw [if_neg hplain, Except.ok.inj h]

def closeConstraint (flags : Flags) (cs : List Char) : Except Fault (List Char) :=
  (match accept flags.isVerbose [':'] cs with
    | some rest => readSubstitutes flags rest
    | none => .ok cs) >>= readConstraint.expectBrace flags.isVerbose

theorem closeConstraint_steady (flags : Flags) :
    SteadySkip flags.isVerbose (closeConstraint flags) := by
  have hsubstitutes := readSubstitutes_steady flags
  constructor
  · intro cs rest h
    obtain ⟨beyond, hmiddle, hbrace⟩ := bind_eq_ok.1 h
    rw [readConstraint.expectBrace] at hbrace
    split at hbrace
    · next past hacc' =>
      obtain rfl := Except.ok.inj hbrace
      refine (accept_suffix hacc').trans ?_
      split at hmiddle
      · next hacc => exact (hsubstitutes.suffix hmiddle).trans (accept_suffix hacc)
      · obtain rfl := Except.ok.inj hmiddle
        exact List.suffix_rfl
    · exact absurd hbrace (by simp [fault])
  · intro stop _ cs rest hcs h tail
    obtain ⟨beyond, hmiddle, hbrace⟩ := bind_eq_ok.1 h
    rw [readConstraint.expectBrace] at hbrace
    split at hbrace
    · next past hacc' =>
      obtain rfl := Except.ok.inj hbrace
      rw [closeConstraint]
      split at hmiddle
      · next hacc =>
        have hpast := hcs.suffix (accept_suffix hacc)
        rw [accept_append_some hcs hacc]
        dsimp only
        rw [hsubstitutes.append hpast hmiddle tail]
        change readConstraint.expectBrace _ _ = _
        rw [readConstraint.expectBrace,
          accept_append_some (hpast.suffix (hsubstitutes.suffix hmiddle)) hacc']
      · next hacc =>
        obtain rfl := Except.ok.inj hmiddle
        rw [accept_append_none hcs (by decide) hacc]
        change readConstraint.expectBrace _ _ = _
        rw [readConstraint.expectBrace, accept_append_some hcs hacc']
    · exact absurd hbrace (by simp [fault])

theorem readConstraint_eq (flags : Flags) (cs : List Char) :
    readConstraint flags cs =
      match (readLimits flags.isVerbose (cs.length + 1) []).on cs with
      | .ok (some (_, rest)) => (closeConstraint flags rest).map some
      | .ok none => .ok none
      | .error e => .error e := by
  rw [readConstraint]
  change Except.bind ((readLimits flags.isVerbose (cs.length + 1) []).on cs) _ = _
  cases (readLimits flags.isVerbose (cs.length + 1) []).on cs with
  | error e => rfl
  | ok found =>
    cases found with
    | none => rfl
    | some found =>
      obtain ⟨-, rest⟩ := found
      simp only [Except.bind, closeConstraint]
      cases accept flags.isVerbose [':'] rest with
      | none =>
        simp only [bind, Except.bind, pure, Except.pure]
        cases readConstraint.expectBrace flags.isVerbose rest <;> rfl
      | some beyond =>
        simp only [bind, Except.bind, pure, Except.pure]
        cases readSubstitutes flags beyond with
        | error e => rfl
        | ok past => cases readConstraint.expectBrace flags.isVerbose past <;> rfl

theorem readConstraint_suffix (flags : Flags) {cs rest : List Char}
    (h : readConstraint flags cs = .ok (some rest)) : rest <:+ cs := by
  rw [readConstraint_eq] at h
  split at h
  · next beyond hlimits =>
    have hsuffix := (readLimits_steady _ _ [] (Nat.lt_succ_self _)).1 _ hlimits
    obtain ⟨past, hclose, hpast⟩ := map_eq_ok_iff.1 h
    obtain rfl := Option.some.inj hpast
    exact ((closeConstraint_steady flags).suffix hclose).trans hsuffix
  · exact absurd (Except.ok.inj h) (by simp)
  · exact absurd h (by simp)

theorem readConstraint_append (flags : Flags) {cs : List Char} {found : Option (List Char)}
    (hcs : Settled flags.isVerbose cs) (h : readConstraint flags cs = .ok found) (tail : List Char) :
    readConstraint flags (cs ++ stop :: tail) = .ok (found.map fun rest => rest ++ stop :: tail) := by
  have hmore : cs.length + 1 ≤ (cs ++ stop :: tail).length + 1 := by
    rw [List.length_append]
    omega
  obtain ⟨hsuffix, happend⟩ :=
    readLimits_steady flags.isVerbose (cs.length + 1) [] (Nat.lt_succ_self cs.length)
  rw [readConstraint_eq] at h ⊢
  split at h
  · next beyond hlimits =>
    rw [happend hcs _ hlimits _ tail hmore]
    obtain ⟨past, hclose, rfl⟩ := map_eq_ok_iff.1 h
    have hbeyond := hcs.suffix (hsuffix _ hlimits)
    exact map_eq_ok_iff.2 ⟨_, (closeConstraint_steady flags).append hbeyond hclose tail, rfl⟩
  · next hlimits =>
    obtain rfl := Except.ok.inj h
    rw [happend hcs _ hlimits _ tail hmore]
    rfl
  · exact absurd h (by simp)

end ReleaseMatch.Pattern
