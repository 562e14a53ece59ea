import ReleaseMatch.Pattern.Bracket
import ReleaseMatch.Proofs.Reading.Escape
set_option autoImplicit false

/-!
# Bracketed sets in front of a stop

A set ends with a bracket of its own, so that nothing after it counts. The bound on the number of
steps depends on the length of the text; a set that has been read within one bound is read in the
same way within every larger one.
-/
namespace ReleaseMatch.Pattern

open Text

variable {stop : Char} [IsStop stop]

theorem splitNegation_append (cs tail : List Char) :
    splitNegation (cs ++ stop :: tail) =
      ((splitNegation cs).1, (splitNegation cs).2 ++ stop :: tail) := by
  cases cs with
  | nil => simp [splitNegation, stop_ne (show '^' ∉ stops by decide)]
  | cons c cs => by_cases h : c = '^' <;> simp [splitNegation, h]

theorem splitNegation_suffix (cs : List Char) : (splitNegation cs).2 <:+ cs := by
  cases cs with
  | nil => exact List.suffix_rfl
  | cons c cs =>
    by_cases h : c = '^'
    · simp [splitNegation, h]
    · simp [splitNegation, h]

def isOver (cs : List Char) : Bool := cs.head? == some ']' || (setOperator? cs).isSome

/-- An operator takes two characters. Where they are there, what follows them makes no difference. -/
theorem setOperator?_append {cs : List Char} (h : isOver cs = true ∨ 2 ≤ cs.length)
    (more : List Char) :
    setOperator? (cs ++ more) = (setOperator? cs).map fun found => (found.1, found.2 ++ more) := by
  cases cs with
  | nil => simp [isOver, setOperator?] at h
  | cons c cs =>
    cases cs with
    | nil =>
      obtain rfl : c = ']' := by simpa [isOver, setOperator?] using h
      rfl
    | cons d cs =>
      simp only [List.cons_append]
      unfold setOperator?
      split <;> simp_all

theorem isOver_append {cs : List Char} (h : isOver cs = true ∨ 2 ≤ cs.length) (more : List Char) :
    isOver (cs ++ more) = isOver cs := by
  rw [isOver, setOperator?_append h, Option.isSome_map]
  cases cs with
  | nil => simp [isOver, setOperator?] at h
  | cons c cs => rfl

theorem setOperator?_suffix {cs rest : List Char} {op : SetOperator}
    (h : setOperator? cs = some (op, rest)) : rest <:+ cs := by
  unfold setOperator? at h
  split at h
  all_goals
    first
    | obtain ⟨-, rfl⟩ := by simpa using h
      exact (List.suffix_cons _ _).trans (List.suffix_cons _ _)
    | exact absurd h (by simp)

def readClassName (cs : List Char) : Except Fault (Option (Class × List Char)) :=
  match cs with
  | ':' :: beyond => readNamedClass beyond
  | _ => pure none

theorem readNamedClass_eq (cs : List Char) :
    readNamedClass cs =
      match accept false [':', ']'] (readPropertyName false (splitNegation cs).2).2 with
      | some rest =>
        (lookupIn true (!(splitNegation cs).1) (readPropertyName false (splitNegation cs).2).1
          rest).map some
      | none => .ok none := by
  unfold readNamedClass
  split
  next negated rest h =>
    have hsplit : splitNegation cs = (negated, rest) := by
      refine Eq.trans ?_ h
      unfold splitNegation
      split <;> rfl
    cases hclose : accept false [':', ']'] (readPropertyName false rest).2 <;>
      simp only [hsplit, hclose]

theorem readClassName_of_ne {cs : List Char} (h : ∀ rest, cs ≠ ':' :: rest) :
    readClassName cs = .ok none := by
  cases cs with
  | nil => rfl
  | cons c cs =>
    rw [readClassName]
    · rfl
    · exact fun beyond e => h beyond e

theorem readNamedClass_suffix {cs rest : List Char} {cls : Class}
    (h : readNamedClass cs = .ok (some (cls, rest))) : rest <:+ cs := by
  rw [readNamedClass_eq] at h
  split at h
  · next rest' hacc =>
    obtain ⟨found, hlookup, hfound⟩ := map_eq_ok_iff.1 h
    obtain rfl := Option.some.inj hfound
    obtain ⟨rfl, -⟩ := lookupIn_ok hlookup
    exact (accept_suffix hacc).trans ((readPropertyName_suffix _ _).trans
      (splitNegation_suffix cs))
  · exact absurd h (by simp)

theorem readNamedClass_append {cs : List Char} {found : Option (Class × List Char)}
    (h : readNamedClass cs = .ok found) (tail : List Char) :
    readNamedClass (cs ++ stop :: tail) =
      .ok (found.map fun f => (f.1, f.2 ++ stop :: tail)) := by
  rw [readNamedClass_eq] at h
  rw [readNamedClass_eq, splitNegation_append, readPropertyName_append .plain]
  dsimp only
  split at h
  · next rest' hacc =>
    rw [accept_append_some .plain hacc]
    obtain ⟨f, hlookup, rfl⟩ := map_eq_ok_iff.1 h
    obtain ⟨hrest, hall⟩ := lookupIn_ok hlookup
    simp [hall, hrest, Except.map]
  · next hacc =>
    obtain rfl : none = found := by simpa using h
    rw [accept_append_none .plain (by decide) hacc]
    rfl

theorem readClassName_suffix {cs rest : List Char} {cls : Class}
    (h : readClassName cs = .ok (some (cls, rest))) : rest <:+ cs := by
  by_cases hcolon : ∃ beyond, cs = ':' :: beyond
  · obtain ⟨beyond, rfl⟩ := hcolon
    exact (readNamedClass_suffix h).trans (List.suffix_cons _ _)
  · rw [readClassName_of_ne (fun beyond e => hcolon ⟨beyond, e⟩)] at h
    exact absurd h (by simp)

theorem readClassName_append {cs : List Char} {found : Option (Class × List Char)}
    (h : readClassName cs = .ok found) (tail : List Char) :
    readClassName (cs ++ stop :: tail) =
      .ok (found.map fun f => (f.1, f.2 ++ stop :: tail)) := by
  by_cases hcolon : ∃ beyond, cs = ':' :: beyond
  · obtain ⟨beyond, rfl⟩ := hcolon
    exact readNamedClass_append h tail
  · rw [readClassName_of_ne (fun beyond e => hcolon ⟨beyond, e⟩)] at h
    obtain rfl : none = found := by simpa using h
    refine readClassName_of_ne fun rest e => ?_
    cases cs with
    | nil => exact absurd (List.cons.inj e).1 (stop_ne (by decide))
    | cons c cs => exact hcolon ⟨cs, by rw [(List.cons.inj e).1]⟩

/-- A reader with a bound: what it reads within one bound, it also reads within a larger one and in
front of a stop. -/
def SteadyWithin {α : Type} (read : Nat → List Char → Except Fault (α × List Char)) (fuel : Nat) :
    Prop :=
  ∀ cs x rest, read fuel cs = .ok (x, rest) → rest <:+ cs.tail ∧
    ∀ {stop : Char} [IsStop stop] more tail, fuel ≤ more →
      read more (cs ++ stop :: tail) = .ok (x, rest ++ stop :: tail)

def readNested (flags : Flags) (fuel : Nat) (cs : List Char) :
    Except Fault (Member × List Char) := do
  let (terms, rest) ← readTerms flags .union fuel (splitNegation cs).2
  let rest ← expect false "]" rest
  return (.cls (negate (splitNegation cs).1 (joinTerms terms)), rest)

theorem readItem_nil (flags : Flags) (fuel : Nat) {found : Member × List Char} :
    readItem flags fuel [] ≠ .ok found := by
  cases fuel with
  | zero => simp [readItem, fault]
  | succ fuel => simp [readItem, fault]

theorem readItem_cons (flags : Flags) (fuel : Nat) (c : Char) (cs : List Char) :
    readItem flags (fuel + 1) (c :: cs) =
      if c = '\\' then (readEscape flags true cs).map fun found => (found.1.toMember, found.2)
      else if c = '[' then do
        match ← readClassName cs with
        | some (cls, rest) => return (.cls cls, rest)
        | none => readNested flags fuel cs
      else .ok (.code c.toNat, cs) := by
  by_cases h1 : c = '\\'
  · subst h1
    rfl
  · by_cases h2 : c = '['
    · subst h2
      rw [if_neg h1, if_pos rfl]
      simp only [readItem, readNested]
      split
      · rfl
      · next hne =>
        rw [readClassName_of_ne fun beyond e => hne beyond e]
        rfl
    · rw [if_neg h1, if_neg h2, readItem]
      · rfl
      · exact fun e => h1 e
      · exact fun e => h2 e

theorem SteadyWithin.zero {α : Type} {read : Nat → List Char → Except Fault (α × List Char)}
    {cause : Cause} (h : ∀ cs, read 0 cs = fault cause cs) : SteadyWithin read 0 := by
  intro cs x rest hread
  exact absurd hread (by simp [h, fault])

section

variable {flags : Flags} {fuel : Nat}

theorem readNested_steady (h : SteadyWithin (readTerms flags .union) fuel) {cs rest : List Char}
    {m : Member} (hread : readNested flags fuel cs = .ok (m, rest)) :
    rest <:+ cs ∧ ∀ {stop : Char} [IsStop stop] more tail, fuel ≤ more →
      readNested flags more (cs ++ stop :: tail) = .ok (m, rest ++ stop :: tail) := by
  obtain ⟨⟨terms, beyond⟩, hterms, hread⟩ := bind_eq_ok.1 hread
  obtain ⟨last, hexpect, hread⟩ := bind_eq_ok.1 hread
  obtain ⟨rfl, rfl⟩ := Prod.mk.inj (Except.ok.inj hread)
  obtain ⟨hsuffix, happend⟩ := h _ _ _ hterms
  refine ⟨(expect_suffix hexpect).trans
    ((hsuffix.trans (List.tail_suffix _)).trans (splitNegation_suffix cs)), ?_⟩
  intro stop _ more tail hmore
  rw [readNested, splitNegation_append]
  simp only [happend more tail hmore, bind, Except.bind, expect_append .plain hexpect]
  rfl

theorem readItem_steady_succ (h : SteadyWithin (readTerms flags .union) fuel) :
    SteadyWithin (readItem flags) (fuel + 1) := by
  intro cs m rest hread
  cases cs with
  | nil => exact absurd hread (by simp [readItem, fault])
  | cons c cs =>
    rw [readItem_cons] at hread
    -- A larger bound leaves as many steps behind the first one at least.
    have hlarger {stop : Char} (tail : List Char) {more : Nat} (hmore : fuel + 1 ≤ more) :
        ∃ more', fuel ≤ more' ∧ readItem flags more (c :: cs ++ stop :: tail) =
          readItem flags (more' + 1) (c :: (cs ++ stop :: tail)) :=
      ⟨more - 1, by omega, by rw [Nat.sub_add_cancel (by omega)]; rfl⟩
    split at hread
    · next hslash =>
      have hescape := (readEscape_steady flags true).map Escape.toMember
      refine ⟨hescape.suffix hread, fun more tail hmore => ?_⟩
      obtain ⟨more', -, heq⟩ := hlarger tail hmore
      rw [heq, readItem_cons, if_pos hslash]
      exact hescape.append (by simp [Settled]) hread tail
    · next hslash =>
      split at hread
      · next hopen =>
        obtain ⟨named, hnamed, hread⟩ := bind_eq_ok.1 hread
        cases named with
        | some found =>
          obtain ⟨cls, beyond⟩ := found
          obtain ⟨rfl, rfl⟩ := Prod.mk.inj (Except.ok.inj hread)
          refine ⟨readClassName_suffix hnamed, fun more tail hmore => ?_⟩
          obtain ⟨more', -, heq⟩ := hlarger tail hmore
          rw [heq, readItem_cons, if_neg hslash, if_pos hopen, readClassName_append hnamed]
          rfl
        | none =>
          obtain ⟨hsuffix, happend⟩ := readNested_steady h hread
          refine ⟨hsuffix, fun more tail hmore => ?_⟩
          obtain ⟨more', hmore', heq⟩ := hlarger tail hmore
          rw [heq, readItem_cons, if_neg hslash, if_pos hopen, readClassName_append hnamed]
          exact happend more' tail hmore'
      · next hopen =>
        obtain ⟨rfl, rfl⟩ := Prod.mk.inj (Except.ok.inj hread)
        refine ⟨List.suffix_rfl, fun more tail hmore => ?_⟩
        obtain ⟨more', -, heq⟩ := hlarger tail hmore
        rw [heq, readItem_cons, if_neg hslash, if_neg hopen]

/-- What an item makes of the character in front of a hyphen before it. -/
def closeRange (low : Nat) (stop : Member) (rest : List Char) :
    Except Fault (List Class × List Char) :=
  match stop with
  | .cls k => return ([codeClass low, hyphen, k], rest)
  | .code high =>
    if high < low then fault .badRange rest
    else if low = high then return ([codeClass low], rest)
    else return ([codeRange low high], rest)

theorem closeRange_steady (low : Nat) (stop : Member) : Steady false (closeRange low stop) := by
  cases stop with
  | cls k => exact .pure _
  | code high => exact .ite (fun _ => .fault) fun _ => .ite (fun _ => .pure _) fun _ => .pure _

/-- The end of a range, or what a hyphen stands for where there is none. -/
def readStop (flags : Flags) (fuel low : Nat) (beyond : List Char) :
    Except Fault (List Class × List Char) :=
  match beyond with
  | '-' :: _ => return ([codeClass low], '-' :: beyond)
  | ']' :: _ => return ([codeClass low, hyphen], beyond)
  | _ => readItem flags fuel beyond >>= fun found => closeRange low found.1 found.2

theorem readStop_of_ne {low : Nat} {beyond : List Char}
    (hhyphen : ∀ rest, beyond = '-' :: rest → False) (hclose : ∀ rest, beyond = ']' :: rest → False) :
    readStop flags fuel low beyond =
      readItem flags fuel beyond >>= fun found => closeRange low found.1 found.2 := by
  rw [readStop]
  · exact hhyphen
  · exact hclose

def readFrom (flags : Flags) (fuel : Nat) (start : Member) (rest : List Char) :
    Except Fault (List Class × List Char) :=
  match start, rest with
  | .code low, '-' :: beyond => readStop flags fuel low beyond
  | m, rest => return ([m.toClass], rest)

theorem readFrom_of_ne {start : Member} {rest : List Char}
    (h : ∀ low beyond, start = .code low → rest = '-' :: beyond → False) :
    readFrom flags fuel start rest = .ok ([start.toClass], rest) := by
  rw [readFrom]
  · rfl
  · exact h

theorem readMember_succ (cs : List Char) :
    readMember flags (fuel + 1) cs =
      readItem flags fuel cs >>= fun found => readFrom flags fuel found.1 found.2 := by
  rw [readMember]
  refine congrArg (readItem flags fuel cs >>= ·) (funext fun found => ?_)
  obtain ⟨start, rest⟩ := found
  dsimp only
  split
  · rw [readFrom]
    split
    · rfl
    · rfl
    · next hhyphen hclose =>
      rw [readStop_of_ne hhyphen hclose]
      rfl
  · next hne =>
    rw [readFrom_of_ne hne]
    rfl

theorem readStop_steady (h : SteadyWithin (readItem flags) fuel) {low : Nat}
    {beyond rest : List Char} {classes : List Class}
    (hread : readStop flags fuel low beyond = .ok (classes, rest)) :
    rest <:+ '-' :: beyond ∧ ∀ {stop : Char} [IsStop stop] more tail, fuel ≤ more →
      readStop flags more low (beyond ++ stop :: tail) = .ok (classes, rest ++ stop :: tail) := by
  rw [readStop.eq_def] at hread
  split at hread
  · obtain ⟨rfl, rfl⟩ := Prod.mk.inj (Except.ok.inj hread)
    exact ⟨List.suffix_rfl, fun more tail _ => rfl⟩
  · obtain ⟨rfl, rfl⟩ := Prod.mk.inj (Except.ok.inj hread)
    exact ⟨List.suffix_cons _ _, fun more tail _ => rfl⟩
  · next hhyphen hclose =>
    obtain ⟨⟨stop, past⟩, hitem, hrange⟩ := bind_eq_ok.1 hread
    obtain ⟨hsuffix, happend⟩ := h _ _ _ hitem
    refine ⟨((closeRange_steady low stop).suffix hrange).trans
      ((hsuffix.trans (List.tail_suffix _)).trans (List.suffix_cons _ _)), fun more tail hmore => ?_⟩
    -- An item has been read, so that there is a character to tell the cases apart.
    obtain ⟨c, cs, rfl⟩ : ∃ c cs, beyond = c :: cs := by
      cases beyond with
      | nil => exact absurd hitem (readItem_nil flags fuel)
      | cons c cs => exact ⟨c, cs, rfl⟩
    rw [readStop_of_ne (fun rest e => hhyphen cs (by rw [(List.cons.inj e).1]))
      (fun rest e => hclose cs (by rw [(List.cons.inj e).1])), happend more tail hmore]
    exact (closeRange_steady low stop).append .plain hrange tail

theorem readFrom_steady (h : SteadyWithin (readItem flags) fuel) {start : Member}
    {cs rest : List Char} {classes : List Class}
    (hread : readFrom flags fuel start cs = .ok (classes, rest)) :
    rest <:+ cs ∧ ∀ {stop : Char} [IsStop stop] more tail, fuel ≤ more →
      readFrom flags more start (cs ++ stop :: tail) = .ok (classes, rest ++ stop :: tail) := by
  by_cases hrange : ∃ low beyond, start = .code low ∧ cs = '-' :: beyond
  · obtain ⟨low, beyond, rfl, rfl⟩ := hrange
    exact readStop_steady h hread
  · rw [readFrom_of_ne fun low beyond hlow hcs => hrange ⟨low, beyond, hlow, hcs⟩] at hread
    obtain ⟨rfl, rfl⟩ := Prod.mk.inj (Except.ok.inj hread)
    refine ⟨List.suffix_rfl, fun more tail _ => readFrom_of_ne ?_⟩
    intro low beyond hlow hcs
    cases cs with
    | nil => exact absurd (List.cons.inj hcs).1 (stop_ne (by decide))
    | cons c cs => exact hrange ⟨low, cs, hlow, by rw [(List.cons.inj hcs).1]⟩

theorem readMember_steady_succ (h : SteadyWithin (readItem flags) fuel) :
    SteadyWithin (readMember flags) (fuel + 1) := by
  intro cs classes rest hread
  rw [readMember_succ] at hread
  obtain ⟨⟨start, beyond⟩, hitem, hfrom⟩ := bind_eq_ok.1 hread
  obtain ⟨hsuffix, happend⟩ := h _ _ _ hitem
  obtain ⟨hsuffix', happend'⟩ := readFrom_steady h hfrom
  refine ⟨hsuffix'.trans hsuffix, fun more tail hmore => ?_⟩
  obtain ⟨more, rfl⟩ : ∃ n, more = n + 1 := ⟨more - 1, by omega⟩
  rw [readMember_succ, happend more tail (by omega)]
  exact happend' more tail (by omega)

theorem readMembers_succ (cs : List Char) :
    readMembers flags (fuel + 1) cs =
      readMember flags fuel cs >>= fun found =>
        if isOver found.2 then .ok found
        else readMembers flags fuel found.2 >>= fun more => .ok (found.1 ++ more.1, more.2) :=
  rfl

theorem isOver_of_readMembers {cs rest : List Char} {classes : List Class}
    (h : readMembers flags fuel cs = .ok (classes, rest)) : isOver rest = true := by
  induction fuel generalizing cs classes with
  | zero => cases h
  | succ fuel ih =>
    rw [readMembers_succ] at h
    obtain ⟨found, -, h⟩ := bind_eq_ok.1 h
    split at h
    · next hover =>
      obtain rfl := Except.ok.inj h
      exact hover
    · obtain ⟨more, hmore, h⟩ := bind_eq_ok.1 h
      obtain ⟨-, rfl⟩ := Prod.mk.inj (Except.ok.inj h)
      exact ih hmore

theorem length_of_readMembers (h : SteadyWithin (readMembers flags) fuel) {cs rest : List Char}
    {classes : List Class} (hread : readMembers flags fuel cs = .ok (classes, rest)) :
    2 ≤ cs.length := by
  have hover := isOver_of_readMembers hread
  have hlength := (h _ _ _ hread).1.length_le
  cases rest with
  | nil => cases hover
  | cons c rest =>
    rw [List.length_tail, List.length_cons] at hlength
    omega

theorem readMembers_steady_succ (hmember : SteadyWithin (readMember flags) fuel)
    (hmembers : SteadyWithin (readMembers flags) fuel) :
    SteadyWithin (readMembers flags) (fuel + 1) := by
  intro cs classes rest hread
  rw [readMembers_succ] at hread
  obtain ⟨⟨first, beyond⟩, hfirst, hread⟩ := bind_eq_ok.1 hread
  obtain ⟨hsuffix, happend⟩ := hmember _ _ _ hfirst
  dsimp only at hread
  split at hread
  · next hover =>
    obtain ⟨rfl, rfl⟩ := Prod.mk.inj (Except.ok.inj hread)
    refine ⟨hsuffix, fun more tail hmore => ?_⟩
    obtain ⟨more, rfl⟩ : ∃ n, more = n + 1 := ⟨more - 1, by omega⟩
    rw [readMembers_succ, happend more tail (by omega)]
    change (if isOver (_ ++ _) = true then _ else _) = _
    rw [if_pos (by rwa [isOver_append (.inl hover)])]
  · next hover =>
    obtain ⟨⟨others, past⟩, hothers, hread⟩ := bind_eq_ok.1 hread
    obtain ⟨rfl, rfl⟩ := Prod.mk.inj (Except.ok.inj hread)
    obtain ⟨hsuffix', happend'⟩ := hmembers _ _ _ hothers
    refine ⟨(hsuffix'.trans (List.tail_suffix _)).trans hsuffix, fun more tail hmore => ?_⟩
    obtain ⟨more, rfl⟩ : ∃ n, more = n + 1 := ⟨more - 1, by omega⟩
    have hlength := length_of_readMembers hmembers hothers
    rw [readMembers_succ, happend more tail (by omega)]
    change (if isOver (_ ++ _) = true then _ else _) = _
    rw [if_neg (by rwa [isOver_append (.inr hlength)]), happend' more tail (by omega)]
    rfl

theorem readTerms_steady_succ (hmembers : SteadyWithin (readMembers flags) fuel)
    (hterms : ∀ op, SteadyWithin (readTerms flags op) fuel) (op : SetOperator) :
    SteadyWithin (readTerms flags op) (fuel + 1) := by
  intro cs terms rest hread
  rw [readTerms] at hread
  obtain ⟨⟨members, beyond⟩, hread', hread⟩ := bind_eq_ok.1 hread
  obtain ⟨hsuffix, happend⟩ := hmembers _ _ _ hread'
  have hover := isOver_of_readMembers hread'
  dsimp only at hread
  split at hread
  · next op' past hop =>
    obtain ⟨⟨others, past'⟩, hothers, hread⟩ := bind_eq_ok.1 hread
    obtain ⟨rfl, rfl⟩ := Prod.mk.inj (Except.ok.inj hread)
    obtain ⟨hsuffix', happend'⟩ := hterms op' _ _ _ hothers
    refine ⟨((hsuffix'.trans (List.tail_suffix _)).trans (setOperator?_suffix hop)).trans hsuffix, fun more tail hmore => ?_⟩
    obtain ⟨more, rfl⟩ : ∃ n, more = n + 1 := ⟨more - 1, by omega⟩
    rw [readTerms, happend more tail (by omega)]
    simp only [bind, Except.bind, setOperator?_append (.inl hover), hop, Option.map_some,
      happend' more tail (by omega)]
    rfl
  · next hop =>
    obtain ⟨rfl, rfl⟩ := Prod.mk.inj (Except.ok.inj hread)
    refine ⟨hsuffix, fun more tail hmore => ?_⟩
    obtain ⟨more, rfl⟩ : ∃ n, more = n + 1 := ⟨more - 1, by omega⟩
    rw [readTerms, happend more tail (by omega)]
    simp only [bind, Except.bind, setOperator?_append (.inl hover), hop, Option.map_none]
    rfl

end

/-- The four readers of a set, each by one step of another. -/
theorem set_steady (flags : Flags) (fuel : Nat) :
    SteadyWithin (readItem flags) fuel ∧ SteadyWithin (readMember flags) fuel ∧
      SteadyWithin (readMembers flags) fuel ∧ ∀ op, SteadyWithin (readTerms flags op) fuel := by
  induction fuel with
  | zero =>
    exact ⟨.zero fun _ => rfl, .zero fun _ => rfl, .zero fun _ => rfl, fun _ => .zero fun _ => rfl⟩
  | succ fuel ih =>
    obtain ⟨hitem, hmember, hmembers, hterms⟩ := ih
    exact ⟨readItem_steady_succ (hterms .union), readMember_steady_succ hitem,
      readMembers_steady_succ hmember hmembers, readTerms_steady_succ hmembers hterms⟩

theorem readSet_eq (flags : Flags) (cs : List Char) :
    readSet flags cs =
      readTerms flags .union (4 * cs.length + 4) (splitNegation cs).2 >>= fun found =>
        expect false "]" found.2 >>= fun rest =>
          .ok (setNode flags (splitNegation cs).1 (joinTerms found.1), rest) :=
  rfl

theorem readSet_steady (verbose : Bool) (flags : Flags) : Steady verbose (readSet flags) := by
  have hterms (cs : List Char) := (set_steady flags (4 * cs.length + 4)).2.2.2 .union
  refine .of_plain ⟨fun {cs n rest} hread => ?_, fun {stop _ cs n rest} _ hread tail => ?_⟩
  all_goals
    rw [readSet_eq] at hread
    obtain ⟨⟨terms, beyond⟩, hread', hread⟩ := bind_eq_ok.1 hread
    obtain ⟨past, hexpect, hread⟩ := bind_eq_ok.1 hread
    obtain ⟨rfl, rfl⟩ := Prod.mk.inj (Except.ok.inj hread)
    obtain ⟨hsuffix, happend⟩ := hterms cs _ _ _ hread'
  · exact (expect_suffix hexpect).trans
      ((hsuffix.trans (List.tail_suffix _)).trans (splitNegation_suffix cs))
  · have hmore : 4 * cs.length + 4 ≤ 4 * (cs ++ stop :: tail).length + 4 := by
      rw [List.length_append]
      omega
    rw [readSet_eq, splitNegation_append, happend _ tail hmore]
    simp only [bind, Except.bind, expect_append .plain hexpect]

end ReleaseMatch.Pattern
