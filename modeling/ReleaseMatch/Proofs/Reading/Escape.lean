import ReleaseMatch.Pattern.Escape
import ReleaseMatch.Proofs.Reading.Scan
set_option autoImplicit false

/-!
# Escapes in front of a stop

An escape reads the same characters whether or not a stop comes after the text it stands in. Where an
escape is cut short by the end of the text and then stands for its letter, it is cut short by the stop
as well: a name may take up a bar, but is not a name then.
-/
namespace ReleaseMatch.Pattern

open Text

variable {verbose : Bool} {cs : List Char} {stop : Char} [IsStop stop]

theorem isDigit_stop : stop.isDigit = false :=
  (by decide : ∀ c ∈ stops, c.isDigit = false) stop IsStop.mem

theorem isOctalDigit_stop : isOctalDigit stop = false :=
  (by decide : ∀ c ∈ stops, isOctalDigit c = false) stop IsStop.mem

theorem readHexDigits_suffix {count : Nat} {ds rest : List Char}
    (h : readHexDigits verbose count cs = .ok (ds, rest)) : rest <:+ cs := by
  induction count generalizing cs ds with
  | zero =>
    obtain ⟨-, rfl⟩ := by simpa [readHexDigits] using h
    exact List.suffix_rfl
  | succ count ih =>
    rw [readHexDigits] at h
    split at h
    · next d beyond hn =>
      split at h
      · split at h
        · next ds' beyond' hrec =>
          obtain ⟨-, rfl⟩ := by simpa using h
          exact (ih hrec).trans (next_rest_suffix hn)
        · exact absurd h (by simp)
      · exact absurd h (by simp)
    · exact absurd h (by simp)

theorem readHexDigits_append {count : Nat} {ds rest : List Char} (hcs : Settled verbose cs)
    (h : readHexDigits verbose count cs = .ok (ds, rest)) (tail : List Char) :
    readHexDigits verbose count (cs ++ stop :: tail) = .ok (ds, rest ++ stop :: tail) := by
  induction count generalizing cs ds with
  | zero =>
    obtain ⟨rfl, rfl⟩ := by simpa [readHexDigits] using h
    rfl
  | succ count ih =>
    rw [readHexDigits] at h ⊢
    split at h
    · next d beyond hn =>
      rw [next_append_some hcs hn]
      split at h
      · next hd =>
        split at h
        · next ds' beyond' hrec =>
          obtain ⟨rfl, rfl⟩ := by simpa using h
          simp [hd, ih (hcs.suffix (next_rest_suffix hn)) hrec]
        · exact absurd h (by simp)
      · exact absurd h (by simp)
    · exact absurd h (by simp)

theorem readHex_steady (letter : Char) (count : Nat) : Steady verbose (readHex verbose letter count) where
  suffix {cs x rest} h := by
    rw [readHex] at h
    split at h
    · exact absurd h (by simp [fault])
    · next ds beyond hds =>
      dsimp only at h
      split at h
      · obtain ⟨-, rfl⟩ := by simpa using h
        exact readHexDigits_suffix hds
      · exact absurd h (by simp [fault])
  append {_ _ cs x rest} hcs h tail := by
    rw [readHex] at h ⊢
    split at h
    · exact absurd h (by simp [fault])
    · next ds beyond hds =>
      dsimp only at h
      split at h
      · next hlt =>
        obtain ⟨rfl, rfl⟩ := by simpa using h
        rw [readHexDigits_append hcs hds]
        simp [hlt]
      · exact absurd h (by simp [fault])

theorem readOctalDigits_suffix (verbose : Bool) (count : Nat) (cs : List Char) :
    (readOctalDigits verbose count cs).2 <:+ cs := by
  induction count generalizing cs with
  | zero => exact List.suffix_rfl
  | succ count ih =>
    rw [readOctalDigits]
    split
    · next d beyond hn =>
      split
      · exact (ih beyond).trans (next_rest_suffix hn)
      · exact List.suffix_rfl
    · exact List.suffix_rfl

theorem readOctalDigits_append (count : Nat) (hcs : Settled verbose cs) (tail : List Char) :
    readOctalDigits verbose count (cs ++ stop :: tail) =
      ((readOctalDigits verbose count cs).1,
        (readOctalDigits verbose count cs).2 ++ stop :: tail) := by
  induction count generalizing cs with
  | zero => rfl
  | succ count ih =>
    rw [readOctalDigits, readOctalDigits]
    cases hn : next verbose cs with
    | none =>
      rw [next_append_none hcs hn]
      simp [isOctalDigit_stop]
    | some found =>
      rw [next_append_some hcs hn]
      simp only [ih (hcs.suffix (next_rest_suffix hn))]
      split <;> rfl

theorem readOctal_steady (first : Char) : Steady verbose (readOctal verbose first) where
  suffix {cs x rest} h := by
    rw [readOctal] at h
    dsimp only at h
    split at h
    · obtain ⟨-, rfl⟩ := by simpa using h
      exact readOctalDigits_suffix verbose 2 cs
    · exact absurd h (by simp [fault])
  append {_ _ cs x rest} hcs h tail := by
    rw [readOctal] at h ⊢
    rw [readOctalDigits_append 2 hcs]
    dsimp only at h ⊢
    split at h
    · next ho =>
      obtain ⟨rfl, rfl⟩ := by simpa using h
      simp [ho]
    · exact absurd h (by simp [fault])

theorem readNumeric_steady (inSet : Bool) (first : Char) :
    Steady verbose (readNumeric verbose inSet first) where
  suffix {cs x rest} h := by
    rw [readNumeric] at h
    split at h
    · exact (readOctal_steady first).suffix h
    · split at h
      · next second beyond hn =>
        split at h
        · split at h
          · next third beyond' hn' =>
            split at h
            · obtain ⟨-, rfl⟩ := by simpa using h
              exact (next_rest_suffix hn').trans (next_rest_suffix hn)
            · obtain ⟨-, rfl⟩ := by simpa using h
              exact next_rest_suffix hn
          · obtain ⟨-, rfl⟩ := by simpa using h
            exact next_rest_suffix hn
        · obtain ⟨-, rfl⟩ := by simpa using h
          exact List.suffix_rfl
      · obtain ⟨-, rfl⟩ := by simpa using h
        exact List.suffix_rfl
  append {_ _ cs x rest} hcs h tail := by
    rw [readNumeric] at h ⊢
    split at h
    · next hoct =>
      rw [if_pos hoct]
      exact (readOctal_steady first).append hcs h tail
    · next hoct =>
      rw [if_neg hoct]
      split at h
      · next second beyond hn =>
        rw [next_append_some hcs hn]
        split at h
        · next hsecond =>
          simp only [hsecond, if_true]
          have hbeyond := hcs.suffix (next_rest_suffix hn)
          split at h
          · next third beyond' hn' =>
            rw [next_append_some hbeyond hn']
            split at h
            · next hthird =>
              obtain ⟨rfl, rfl⟩ := by simpa using h
              simp [hthird]
            · next hthird =>
              obtain ⟨rfl, rfl⟩ := by simpa using h
              simp [hthird]
          · next hn' =>
            -- The text ends after two digits: the stop is no octal digit.
            rw [next_append_none hbeyond hn']
            obtain ⟨rfl, rfl⟩ := by simpa using h
            simp [isOctalDigit_stop]
        · next hsecond =>
          obtain ⟨rfl, rfl⟩ := by simpa using h
          simp [hsecond]
      · next hn =>
        rw [next_append_none hcs hn]
        obtain ⟨rfl, rfl⟩ := by simpa using h
        simp [isDigit_stop]

def nameSpan (verbose : Bool) (cs : List Char) : List Char × List Char :=
  spanWhile verbose (fun c => c != ')' && c != '>') cs

def nameOf (numeric : Bool) (name rest : List Char) : Except Fault (GroupName × List Char) :=
  if name.isEmpty then fault .missingName rest
  else if name.all isDecimal then
    if numeric && 1 ≤ decimal name then .ok (.number (decimal name), rest) else fault .badName rest
  else if isIdentifier name then .ok (.name (String.ofList name), rest)
  else fault .badName rest

theorem readName_eq (numeric : Bool) :
    readName verbose numeric cs = nameOf numeric (nameSpan verbose cs).1 (nameSpan verbose cs).2 :=
  rfl

theorem nameOf_ok {numeric : Bool} {name rest rest' : List Char} {ref : GroupName}
    (h : nameOf numeric name rest = .ok (ref, rest')) :
    rest' = rest ∧ ∀ other, nameOf numeric name other = .ok (ref, other) := by
  rw [nameOf] at h
  split at h
  · cases h
  · next hempty =>
    split at h
    · next hall =>
      split at h
      · next hnumber =>
        obtain ⟨rfl, rfl⟩ := Prod.mk.inj (Except.ok.inj h)
        exact ⟨rfl, fun other => by rw [nameOf, if_neg hempty, if_pos hall, if_pos hnumber]⟩
      · cases h
    · next hall =>
      split at h
      · next hname =>
        obtain ⟨rfl, rfl⟩ := Prod.mk.inj (Except.ok.inj h)
        exact ⟨rfl, fun other => by rw [nameOf, if_neg hempty, if_neg hall, if_pos hname]⟩
      · cases h

theorem nameOf_isName {name rest rest' : List Char} {ref : GroupName}
    (h : nameOf false name rest = .ok (ref, rest')) : ∃ s, ref = .name s := by
  rw [nameOf] at h
  split at h
  · cases h
  · split at h
    · cases h
    · split at h
      · obtain ⟨rfl, -⟩ := Prod.mk.inj (Except.ok.inj h)
        exact ⟨_, rfl⟩
      · cases h

theorem nameOf_stop {numeric : Bool} {name rest : List Char} (hstop : stop ∈ name)
    (found : GroupName × List Char) : nameOf numeric name rest ≠ .ok found := by
  have hdecimal : isDecimal stop = false :=
    (by decide : ∀ c ∈ stops, isDecimal c = false) stop IsStop.mem
  have hstart : startsIdentifier stop = false :=
    (by decide : ∀ c ∈ stops, startsIdentifier c = false) stop IsStop.mem
  have hcontinue : continuesIdentifier stop = false :=
    (by decide : ∀ c ∈ stops, continuesIdentifier c = false) stop IsStop.mem
  have hall : ¬name.all isDecimal = true := fun h =>
    absurd (List.all_eq_true.1 h stop hstop) (by rw [hdecimal]; exact Bool.false_ne_true)
  have hname : ¬isIdentifier name = true := by
    cases name with
    | nil => simp at hstop
    | cons c name =>
      rw [isIdentifier, Bool.and_eq_true, List.all_eq_true]
      rintro ⟨hfirst, hothers⟩
      rcases List.mem_cons.1 hstop with rfl | hmem
      · exact absurd hfirst (by rw [hstart]; exact Bool.false_ne_true)
      · exact absurd (hothers stop hmem) (by rw [hcontinue]; exact Bool.false_ne_true)
  rw [nameOf, if_neg hall, if_neg hname]
  split <;> simp [fault]

theorem readName_suffix {numeric : Bool} {ref : GroupName} {rest : List Char}
    (h : readName verbose numeric cs = .ok (ref, rest)) : rest <:+ cs := by
  rw [readName_eq] at h
  obtain ⟨rfl, -⟩ := nameOf_ok h
  exact spanWhile_suffix _ _ _

theorem readName_append {numeric : Bool} {ref : GroupName} {rest : List Char}
    (h : readName verbose numeric cs = .ok (ref, rest)) (hrest : rest ≠ []) (more : List Char) :
    readName verbose numeric (cs ++ more) = .ok (ref, rest ++ more) := by
  rw [readName_eq] at h ⊢
  obtain ⟨rfl, hall⟩ := nameOf_ok h
  rw [nameSpan, spanWhile, span_append_of_ne false more hrest]
  exact hall _

theorem expect_ne_nil {word : String} {rest : List Char} (hword : word.toList ≠ [])
    (h : expect verbose word cs = .ok rest) : cs ≠ [] := by
  rintro rfl
  obtain ⟨c, word', hc⟩ := List.exists_cons_of_ne_nil hword
  have hn : next verbose [] = none := by cases verbose <;> rfl
  rw [expect, hc, accept, hn] at h
  cases h

theorem Steady.named {α : Type} (numeric : Bool) {word : String} (hword : word.toList ≠ [])
    {g : GroupName → List Char → Except Fault (α × List Char)} (hg : ∀ ref, Steady verbose (g ref)) :
    Steady verbose fun cs =>
      readName verbose numeric cs >>= fun found => expect verbose word found.2 >>= g found.1 where
  suffix {cs x rest} h := by
    obtain ⟨found, hname, h⟩ := bind_eq_ok.1 h
    exact ((Steady.afterWord word (hg found.1)).suffix h).trans (readName_suffix hname)
  append {_ _ cs x rest} hcs h tail := by
    obtain ⟨found, hname, h⟩ := bind_eq_ok.1 h
    obtain ⟨beyond, hexpect, -⟩ := bind_eq_ok.1 h
    rw [readName_append hname (expect_ne_nil hword hexpect)]
    exact (Steady.afterWord word (hg found.1)).append (hcs.suffix (readName_suffix hname)) h tail

theorem next_stop (tail : List Char) : next verbose (stop :: tail) = some (stop, tail) := by
  have hnone : next verbose [] = none := by cases verbose <;> rfl
  have hsettled : Settled verbose [] := fun _ => rfl
  exact next_append_none hsettled hnone tail

/-- Where no name and no word after it stand at the end of a text, none stand there in front of a
stop. -/
theorem exists_named_of_append {numeric : Bool} {found : GroupName × List Char} {tail : List Char}
    (hcs : Settled verbose cs)
    (h : (readName verbose numeric (cs ++ stop :: tail) >>= fun found =>
      expect verbose ">" found.2 >>= fun rest => .ok (found.1, rest)) = .ok found) :
    ∃ found', (readName verbose numeric cs >>= fun found =>
      expect verbose ">" found.2 >>= fun rest => .ok (found.1, rest)) = .ok found' := by
  obtain ⟨⟨ref, past⟩, hname, h⟩ := bind_eq_ok.1 h
  obtain ⟨beyond, hexpect, -⟩ := bind_eq_ok.1 h
  rw [readName_eq] at hname
  by_cases hrest : (nameSpan verbose cs).2 = []
  · rcases span_append_of_eq stop tail false cs (by simp) hcs (by simp) hrest with
      hmem | heq
    · exact absurd hname (nameOf_stop hmem _)
    · obtain ⟨rfl, -⟩ := nameOf_ok hname
      have hne : ¬stop = '>' := stop_ne (by decide)
      rw [nameSpan, spanWhile, heq] at hexpect
      simp [expect, accept, next_stop, hne, fault] at hexpect
  · rw [nameSpan, spanWhile, span_append_of_ne false _ hrest] at hname
    obtain ⟨rfl, hall⟩ := nameOf_ok hname
    cases halone : expect verbose ">" (nameSpan verbose cs).2 with
    | error e =>
      have hpast := hcs.suffix (spanWhile_suffix verbose (fun c => c != ')' && c != '>') cs)
      obtain ⟨e', he⟩ : ∃ e', expect verbose ">" ((nameSpan verbose cs).2 ++ stop :: tail) = .error e' :=
        expect_append_error hpast (by decide) halone tail
      exact absurd (he.symm.trans hexpect) (by simp)
    | ok last =>
      refine ⟨(ref, last), ?_⟩
      have hsame : readName verbose numeric cs = .ok (ref, (nameSpan verbose cs).2) := hall _
      simp [hsame, halone, bind, Except.bind]

def readBracketed (verbose : Bool) (cs : List Char) : Except Fault (GroupName × List Char) := do
  let rest ← expect verbose "<" cs
  let (name, rest) ← readName verbose true rest
  return (name, ← expect verbose ">" rest)

theorem readGroupReference_eq (verbose : Bool) (cs : List Char) :
    readGroupReference verbose cs =
      match readBracketed verbose cs with
      | .ok (name, rest) => (.reference name, rest)
      | .error _ => (.code 'g'.toNat, cs) := rfl

theorem readBracketed_steady : Steady verbose (readBracketed verbose) :=
  .afterWord "<" (.named true (by decide) fun name => .pure name)

theorem readBracketed_append_error {e : Fault} (hcs : Settled verbose cs)
    (h : readBracketed verbose cs = .error e) (tail : List Char) :
    ∃ e', readBracketed verbose (cs ++ stop :: tail) = .error e' := by
  cases happend : readBracketed verbose (cs ++ stop :: tail) with
  | error e' => exact ⟨e', rfl⟩
  | ok found =>
    obtain ⟨beyond, hopen, hname⟩ := bind_eq_ok.1 happend
    cases halone : expect verbose "<" cs with
    | error e' =>
      obtain ⟨e'', he⟩ : ∃ e'', expect verbose "<" (cs ++ stop :: tail) = .error e'' :=
        expect_append_error hcs (by decide) halone tail
      exact absurd (he.symm.trans hopen) (by simp)
    | ok rest =>
      obtain rfl : rest ++ stop :: tail = beyond :=
        Except.ok.inj ((expect_append hcs halone tail).symm.trans hopen)
      obtain ⟨found', hfound⟩ :=
        exists_named_of_append (hcs.suffix (expect_suffix halone)) hname
      have hread : readBracketed verbose cs = .ok found' := by
        refine Eq.trans ?_ hfound
        rw [readBracketed, halone]
        rfl
      rw [hread] at h
      cases h

theorem readGroupReference_steady :
    Steady verbose fun cs => .ok (readGroupReference verbose cs) where
  suffix {cs x rest} h := by
    rw [readGroupReference_eq] at h
    split at h
    · next name beyond hb =>
      obtain ⟨-, rfl⟩ := by simpa using h
      exact readBracketed_steady.suffix hb
    · obtain ⟨-, rfl⟩ := by simpa using h
      exact List.suffix_rfl
  append {stop _ cs x rest} hcs h tail := by
    rw [readGroupReference_eq] at h ⊢
    split at h
    · next name beyond hb =>
      obtain ⟨rfl, rfl⟩ := by simpa using h
      rw [readBracketed_steady.append hcs hb]
    · next hb =>
      obtain ⟨e', he⟩ : ∃ e', readBracketed verbose (cs ++ stop :: tail) = .error e' :=
        readBracketed_append_error hcs hb tail
      obtain ⟨rfl, rfl⟩ := Prod.mk.inj (Except.ok.inj h)
      rw [he]

theorem readNamedList_error (x : Escape × List Char) : readNamedList verbose cs ≠ .ok x := by
  rw [readNamedList]
  cases h1 : expect verbose "<" cs with
  | error e => simp [bind, Except.bind]
  | ok rest1 =>
    cases h2 : readName verbose true rest1 with
    | error e => simp [h2, bind, Except.bind]
    | ok found => cases h3 : expect verbose ">" found.2 <;> simp [h2, h3, bind, Except.bind, fault]

theorem readNamedList_steady : Steady verbose (readNamedList verbose) where
  suffix h := absurd h (readNamedList_error _)
  append _ h := absurd h (readNamedList_error _)

theorem readNamedCharacter_steady : Steady verbose (readNamedCharacter verbose) where
  suffix {cs x rest} h := by
    rw [readNamedCharacter] at h
    split at h
    · obtain ⟨-, rfl⟩ := by simpa using h
      exact List.suffix_rfl
    · dsimp only at h
      split at h
      · obtain ⟨-, rfl⟩ := by simpa using h
        exact List.suffix_rfl
      · exact absurd h (by simp [fault])
  append {_ _ cs x rest} hcs h tail := by
    rw [readNamedCharacter] at h ⊢
    split at h
    · next hb =>
      injection h with h
      injection h with h1 h2
      rw [accept_append_none hcs (by decide) hb, h1, h2]
    · next beyond hb =>
      have hbeyond := hcs.suffix (accept_suffix hb)
      rw [accept_append_some hcs hb]
      dsimp only at h ⊢
      rw [spanWhile_append (by decide) hbeyond]
      split at h
      · next hc =>
        injection h with h
        injection h with h1 h2
        rw [accept_append_none (hbeyond.suffix (spanWhile_suffix ..)) (by decide) hc, h1, h2]
      · exact absurd h (by simp [fault])

theorem readPropertyName_suffix (verbose : Bool) (cs : List Char) :
    (readPropertyName verbose cs).2 <:+ cs := by
  have hname := spanWhile_suffix verbose (isNamePart [' ', '&', '_', '-', '.']) cs
  rw [readPropertyName]
  dsimp only
  split
  · next c beyond hn =>
    split
    · split
      · exact hname
      · exact (spanWhile_suffix ..).trans ((next_rest_suffix hn).trans hname)
    · exact hname
  · exact hname

theorem readPropertyName_append (hcs : Settled verbose cs) (tail : List Char) :
    readPropertyName verbose (cs ++ stop :: tail) =
      ((readPropertyName verbose cs).1, (readPropertyName verbose cs).2 ++ stop :: tail) := by
  have hname := hcs.suffix (spanWhile_suffix verbose (isNamePart [' ', '&', '_', '-', '.']) cs)
  rw [readPropertyName, readPropertyName, spanWhile_append (by decide) hcs]
  dsimp only
  cases hn : next verbose (spanWhile verbose (isNamePart [' ', '&', '_', '-', '.']) cs).2 with
  | none =>
    rw [next_append_none hname hn]
    simp [stop_ne (show ':' ∉ stops by decide), stop_ne (show '=' ∉ stops by decide)]
  | some found =>
    rw [next_append_some hname hn]
    dsimp only
    rw [spanWhile_append (by decide) (hname.suffix (next_rest_suffix hn))]
    dsimp only
    split
    · split <;> rfl
    · rfl

theorem lookupIn_ok {isPosix positive : Bool} {name : Option String × String} {rest rest' : List Char}
    {cls : Class} (h : lookupIn isPosix positive name rest = .ok (cls, rest')) :
    rest' = rest ∧ ∀ other, lookupIn isPosix positive name other = .ok (cls, other) := by
  rw [lookupIn] at h
  split at h
  · next c hc =>
    obtain ⟨rfl, rfl⟩ := by simpa using h
    exact ⟨rfl, fun other => by simp [lookupIn, hc]⟩
  · exact absurd h (by simp [fault])
  · exact absurd h (by simp [fault])

def readBracedName (verbose : Bool) (cs : List Char) :
    (Bool × Option String × String) × List Char :=
  let (negated, rest) :=
    match accept verbose ['^'] cs with
    | some rest => (true, rest)
    | none => (false, cs)
  let (name, rest) := readPropertyName verbose rest
  ((negated, name), rest)

theorem readBracedName_suffix (verbose : Bool) (cs : List Char) :
    (readBracedName verbose cs).2 <:+ cs := by
  rw [readBracedName]
  cases hc : accept verbose ['^'] cs with
  | none => exact readPropertyName_suffix verbose cs
  | some rest => exact (readPropertyName_suffix verbose rest).trans (accept_suffix hc)

theorem readBracedName_append (hcs : Settled verbose cs) (tail : List Char) :
    readBracedName verbose (cs ++ stop :: tail) =
      ((readBracedName verbose cs).1, (readBracedName verbose cs).2 ++ stop :: tail) := by
  rw [readBracedName, readBracedName]
  cases hc : accept verbose ['^'] cs with
  | none => simp only [accept_append_none hcs (by decide) hc, readPropertyName_append hcs]
  | some rest =>
    simp only [accept_append_some hcs hc,
      readPropertyName_append (hcs.suffix (accept_suffix hc))]

theorem readProperty_eq (positive : Bool) (cs : List Char) :
    readProperty verbose positive cs =
      match next verbose cs with
      | some (c, rest) =>
        if c = '\x7b' then
          match accept verbose ['\x7d'] (readBracedName verbose rest).2 with
          | some rest' =>
            (lookupIn false (positive != (readBracedName verbose rest).1.1)
              (readBracedName verbose rest).1.2 rest').map fun (k, r) => (.cls k, r)
          | none => .ok (.code (if positive then 'p'.toNat else 'P'.toNat), cs)
        else if "CLMNPSZ".contains c then
          (lookupIn false positive (none, c.toString) rest).map fun (k, r) => (.cls k, r)
        else .ok (.code (if positive then 'p'.toNat else 'P'.toNat), cs)
      | none => .ok (.code (if positive then 'p'.toNat else 'P'.toNat), cs) := by
  rfl

theorem lookupIn_map_ok {isPosix positive : Bool} {name : Option String × String}
    {rest rest' : List Char} {e : Escape}
    (h : (lookupIn isPosix positive name rest).map (fun (k, r) => (Escape.cls k, r)) =
      .ok (e, rest')) :
    rest' = rest ∧ ∀ other,
      (lookupIn isPosix positive name other).map (fun (k, r) => (Escape.cls k, r)) =
        .ok (e, other) := by
  obtain ⟨found, hlookup, hmap⟩ := map_eq_ok_iff.1 h
  obtain ⟨rfl, rfl⟩ := Prod.mk.inj hmap
  obtain ⟨hrest, hall⟩ := lookupIn_ok hlookup
  exact ⟨hrest, fun other => map_eq_ok_iff.2 ⟨_, hall other, rfl⟩⟩

theorem readProperty_steady (positive : Bool) : Steady verbose (readProperty verbose positive) where
  suffix {cs x rest} h := by
    rw [readProperty_eq] at h
    split at h
    · next c beyond hn =>
      split at h
      · split at h
        · next rest' hacc =>
          obtain ⟨rfl, -⟩ := lookupIn_map_ok h
          exact (accept_suffix hacc).trans
            ((readBracedName_suffix verbose beyond).trans (next_rest_suffix hn))
        · obtain ⟨-, rfl⟩ := by simpa using h
          exact List.suffix_rfl
      · split at h
        · obtain ⟨rfl, -⟩ := lookupIn_map_ok h
          exact next_rest_suffix hn
        · obtain ⟨-, rfl⟩ := by simpa using h
          exact List.suffix_rfl
    · obtain ⟨-, rfl⟩ := by simpa using h
      exact List.suffix_rfl
  append {stop _ cs x rest} hcs h tail := by
    rw [readProperty_eq] at h ⊢
    split at h
    · next c beyond hn =>
      have hbeyond := hcs.suffix (next_rest_suffix hn)
      rw [next_append_some hcs hn]
      dsimp only
      split at h
      · next hc =>
        have hname := hbeyond.suffix (readBracedName_suffix verbose beyond)
        rw [if_pos hc, readBracedName_append hbeyond]
        split at h
        · next rest' hacc =>
          obtain ⟨rfl, hall⟩ := lookupIn_map_ok h
          rw [accept_append_some hname hacc]
          exact hall _
        · next hacc =>
          injection h with h
          injection h with h1 h2
          rw [accept_append_none hname (by decide) hacc, h1, h2]
      · next hc =>
        rw [if_neg hc]
        split at h
        · next hl =>
          obtain ⟨rfl, hall⟩ := lookupIn_map_ok h
          rw [if_pos hl]
          exact hall _
        · next hl =>
          injection h with h
          injection h with h1 h2
          rw [if_neg hl, h1, h2]
    · next hn =>
      injection h with h
      injection h with h1 h2
      -- Where the text ends the stop comes next, which names no property.
      have hletter : "CLMNPSZ".contains stop = false :=
        forall_stops (p := fun c => "CLMNPSZ".contains c = false) (by simp) (by simp) stop IsStop.mem
      rw [next_append_none hcs hn, h1, h2]
      dsimp only
      rw [if_neg (stop_ne (by decide)), if_neg (by rw [hletter]; exact Bool.false_ne_true)]

theorem letterEscape_steady (flags : Flags) (inSet : Bool) (c : Char) :
    Steady verbose (letterEscape flags inSet c) := by
  unfold letterEscape
  cases if inSet then none else anchorEscape? flags c with
  | some n => exact .pure _
  | none =>
    cases classEscape? flags c with
    | some k => exact .pure _
    | none =>
      cases plainEscape? c with
      | some d => exact .pure _
      | none => exact .fault

theorem readEscape_steady (flags : Flags) (inSet : Bool) :
    Steady (flags.isVerbose && !inSet) (readEscape flags inSet) := by
  refine .first fun c => ?_
  refine .ite (fun _ => readHex_steady c 2) fun _ => ?_
  refine .ite (fun _ => readHex_steady c 4) fun _ => ?_
  refine .ite (fun _ => readHex_steady c 8) fun _ => ?_
  refine .ite (fun _ => readGroupReference_steady) fun _ => ?_
  refine .ite (fun _ => .pure _) fun _ => ?_
  refine .ite (fun _ => readNamedList_steady) fun _ => ?_
  refine .ite (fun _ => readNamedCharacter_steady) fun _ => ?_
  refine .ite (fun _ => readProperty_steady _) fun _ => ?_
  refine .ite (fun _ => .pure _) fun _ => ?_
  refine .ite (fun _ => .pure _) fun _ => ?_
  refine .ite (fun _ => letterEscape_steady flags inSet c) fun _ => ?_
  refine .ite (fun _ => readNumeric_steady inSet c) fun _ => .pure _

end ReleaseMatch.Pattern
