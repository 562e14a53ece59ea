import ReleaseMatch.Proofs.Reading.Action
import ReleaseMatch.Proofs.Reading.Escape
set_option autoImplicit false

/-!
# Reading is doing what is scanned

Each step of a reader comes to what the scanned action does to it, and where nothing is scanned it comes
to a fault.
-/
namespace ReleaseMatch.Pattern

open Text

/-- Reading comes to what the scanned text asks for, or to a fault where scanning does. -/
def Reader.Follows (r : Reader) (found : Except Fault (Action × List Char))
    (result : Except Fault Reader) : Prop :=
  match found with
  | .ok (action, rest) => result.toOption = r.act action rest
  | .error _ => result.toOption = none

namespace Reader

variable {r : Reader} {rest place : List Char}

theorem follows_error {e f : Fault} : r.Follows (.error e) (.error f) := rfl

theorem follows_fault {cause : Cause} {cs place : List Char} :
    r.Follows (amiss cs) (fault cause place) := follows_error

theorem follows_bind {α : Type} {x : Except Fault α} {f : α → Except Fault (Action × List Char)}
    {g : α → Except Fault Reader} (h : ∀ a, x = .ok a → r.Follows (f a) (g a)) :
    r.Follows (x >>= f) (x >>= g) := by
  cases x with
  | error e => exact follows_error
  | ok a => exact h a rfl

theorem map_bind_placed {α : Type} (x : Except Fault α) (f : α → Except Fault (Action × List Char)) :
    (x >>= f).map (placed place) = x >>= fun a => (f a).map (placed place) := by
  cases x <;> rfl

theorem length_add_sub {cs place : List Char} (h : cs <:+ place) :
    cs.length + (place.length - cs.length) = place.length :=
  Nat.add_sub_cancel' h.length_le

theorem addCall_follows (hplace : rest <:+ place) (ref : GroupName) :
    r.Follows ((scanCall r.isVerbose ref rest).map (placed place)) (r.addCall ref place rest) := by
  rw [scanCall, map_bind_placed]
  refine follows_bind fun beyond hexpect => ?_
  have hlength := length_add_sub ((expect_suffix hexpect).trans hplace)
  change some _ = some _
  simp only [mention, push, hlength]

theorem namedCall_follows (hplace : rest <:+ place) :
    r.Follows ((scanNamedCall r.isVerbose rest).map (placed place)) (r.namedCall place rest) := by
  rw [scanNamedCall, map_bind_placed]
  exact follows_bind fun found hname => addCall_follows ((readName_suffix hname).trans hplace) _

theorem relativeCall_follows (forward : Bool) (hplace : rest <:+ place) :
    r.Follows ((scanRelativeCall r.isVerbose forward rest).map (placed place))
      (r.relativeCall forward place rest) := by
  rw [scanRelativeCall, relativeCall]
  dsimp only
  have hds := (spanWhile_suffix r.isVerbose Char.isDigit rest).trans hplace
  generalize spanWhile r.isVerbose Char.isDigit rest = found at hds ⊢
  obtain ⟨ds, beyond⟩ := found
  dsimp only at hds ⊢
  split
  · exact follows_error
  · change r.Follows _ (if r.numberFrom forward (decimal ds) = 0 then _ else
      r.addCall (.number (r.numberFrom forward (decimal ds))) place beyond)
    rw [map_bind_placed, addCall]
    cases hexpect : expect r.isVerbose ")" beyond with
    | error e =>
      split
      · exact follows_error
      · exact follows_error
    | ok past =>
      have hlength := length_add_sub ((expect_suffix hexpect).trans hds)
      change _ = ite _ _ _
      split
      · rfl
      · simp only [mention, push, hlength]
        rfl

theorem scanFlags_placed {verbose : Bool} (cs : List Char) :
    (scanFlags verbose cs).map (placed place) = scanFlags verbose cs := by
  rw [scanFlags]
  cases readFlagChange verbose cs with
  | error e => rfl
  | ok found =>
    dsimp only [bind, Except.bind]
    cases accept verbose [':'] found.2 with
    | some beyond => rfl
    | none => cases accept verbose [')'] found.2 <;> rfl

theorem dropComment_follows :
    r.Follows ((dropComment rest).map fun rest => (.pass, rest))
      (do return { r with rest := ← dropComment rest }) := by
  cases dropComment rest with
  | error e => exact follows_error
  | ok beyond => rfl

theorem quantify_follows (counts : Counts) :
    r.Follows (scanQuantifier r.isVerbose counts rest) (r.quantify counts rest) := by
  rw [scanQuantifier, Follows, quantify, act, Level.amend]
  cases r.level.items with
  | nil => rfl
  | cons item items =>
    cases item with
    | none => cases items <;> rfl
    | some n => rfl

theorem brace_follows : r.Follows (scanBrace r.flags rest) (r.brace rest) := by
  rw [scanBrace, brace, isVerbose]
  cases readCounts r.flags.isVerbose rest with
  | error e => exact follows_error
  | ok counts =>
    cases counts with
    | some found => exact quantify_follows found.1
    | none =>
      change r.Follows (readConstraint r.flags rest >>= _) (readConstraint r.flags rest >>= _)
      cases readConstraint r.flags rest with
      | error e => exact follows_error
      | ok found =>
        cases found with
        | none => rfl
        | some beyond =>
          change Except.toOption _ = r.act .constrain beyond
          rw [act, Level.amend]
          cases r.level.items with
          | nil => rfl
          | cons item items => cases item <;> rfl

theorem flagGroup_follows : r.Follows (scanFlags r.isVerbose rest) (r.flagGroup rest) := by
  rw [scanFlags, flagGroup]
  cases readFlagChange r.isVerbose rest with
  | error e => exact follows_error
  | ok found =>
    obtain ⟨⟨on, off⟩, beyond⟩ := found
    dsimp only [bind, Except.bind, isVerbose]
    cases accept r.flags.isVerbose [':'] beyond with
    | some rest => rfl
    | none =>
      cases accept r.flags.isVerbose [')'] beyond with
      | some rest => rfl
      | none => exact follows_error

theorem namedGroup_follows : r.Follows (scanName r.isVerbose rest) (r.namedGroup rest) := by
  rw [scanName, namedGroup]
  cases readName r.isVerbose false rest with
  | error e => exact follows_error
  | ok found =>
    obtain ⟨name, beyond⟩ := found
    cases name with
    | number n => exact follows_error
    | name s =>
      change r.Follows (expect r.isVerbose ">" beyond >>= fun rest => _)
        (expect r.isVerbose ">" beyond >>= fun rest => _)
      cases expect r.isVerbose ">" beyond with
      | error e => exact follows_error
      | ok more => rfl

theorem extension_follows : r.Follows (scanExtension r.isVerbose rest) (r.extension rest) := by
  rw [extension, scanExtension]
  split
  · next beyond hn =>
    rw [byNext_way hn rfl]
    exact namedGroup_follows
  · next beyond hn =>
    rw [byNext_past hn rfl, placing, byNext_way hn rfl, scanBack, map_bind_placed]
    refine follows_bind fun found hname => ?_
    rw [map_bind_placed]
    refine follows_bind fun past hexpect => ?_
    have hlength := length_add_sub
      (((expect_suffix hexpect).trans (readName_suffix hname)).trans (next_rest_suffix hn))
    change some _ = some _
    simp only [mention, push, hlength]
  · next beyond hn =>
    rw [byNext_past hn rfl, placing, byNext_way hn rfl]
    exact namedCall_follows (next_rest_suffix hn)
  · next beyond hn =>
    rw [byNext_past hn rfl, placing, byNext_way hn rfl]
    exact namedCall_follows (next_rest_suffix hn)
  · next hname hback hcall hand =>
    have hnone (c : Char) (beyond : List Char) (hn : next r.isVerbose rest = some (c, beyond)) :
        extensionWays r.isVerbose c = none ∧ mentionWays r.isVerbose c = none := by
      constructor
      · rw [extensionWays]
        rintro rfl
        exact hname _ hn
      · rw [mentionWays]
        · rintro rfl
          exact hback _ hn
        · rintro rfl
          exact hcall _ hn
        · rintro rfl
          exact hand _ hn
    rw [byNext_otherwise fun c beyond hn => (hnone c beyond hn).1, placing,
      byNext_otherwise fun c beyond hn => (hnone c beyond hn).2]
    exact follows_fault

theorem condition_follows :
    r.Follows (byNext r.isVerbose (conditionWays r.isVerbose) (placing (scanCondition r.isVerbose)) rest)
      (r.condition rest) := by
  rw [condition]
  split
  · next beyond hn =>
    rw [byNext_way hn rfl]
    split
    · next more hm =>
      rw [byNext_way hm rfl]
      rfl
    · next more hm =>
      rw [byNext_way hm rfl]
      rfl
    · next more hm =>
      rw [byNext_way hm rfl]
      split
      · next last hl =>
        rw [byNext_way hl rfl]
        rfl
      · next last hl =>
        rw [byNext_way hl rfl]
        rfl
      · next hpos hneg =>
        rw [byNext_otherwise]
        · exact follows_fault
        · intro c last hl
          rw [behindTestWays]
          · rintro rfl
            exact hpos _ hl
          · rintro rfl
            exact hneg _ hl
    · next hpos hneg hbehind =>
      rw [byNext_otherwise]
      · exact follows_fault
      · intro c last hl
        rw [testWays]
        · rintro rfl
          exact hpos _ hl
        · rintro rfl
          exact hneg _ hl
        · rintro rfl
          exact hbehind _ hl
  · next htest =>
    -- What is not a test asks for a group.
    rw [byNext_otherwise]
    · rw [placing, scanCondition, map_bind_placed]
      refine follows_bind fun found hname => ?_
      rw [map_bind_placed]
      refine follows_bind fun past hexpect => ?_
      have hlength := length_add_sub ((expect_suffix hexpect).trans (readName_suffix hname))
      change some _ = some _
      simp only [hlength]
    · intro c beyond hn
      rw [conditionWays]
      rintro rfl
      exact htest _ hn

theorem special_follows : r.Follows (scanSpecial r.isVerbose rest) (r.special rest) := by
  rw [special, scanSpecial]
  split
  · next beyond hn =>
    rw [byNext_way hn rfl]
    split
    · next more hm =>
      rw [byNext_way hm rfl]
      rfl
    · next more hm =>
      rw [byNext_way hm rfl]
      rfl
    · next hpos hneg =>
      rw [byNext_otherwise]
      · exact namedGroup_follows
      · intro c more hm
        rw [behindWays]
        · rintro rfl
          exact hpos _ hm
        · rintro rfl
          exact hneg _ hm
  · next beyond hn =>
    rw [byNext_way hn rfl]
    rfl
  · next beyond hn =>
    rw [byNext_way hn rfl]
    rfl
  · next beyond hn =>
    rw [byNext_way hn rfl]
    exact extension_follows
  · next beyond hn =>
    rw [byNext_way hn rfl]
    exact dropComment_follows
  · next beyond hn =>
    rw [byNext_way hn rfl]
    exact condition_follows
  · next beyond hn =>
    rw [byNext_way hn rfl]
    rfl
  · next beyond hn =>
    rw [byNext_way hn rfl]
    rfl
  · next beyond hn =>
    rw [byNext_past hn rfl, placing, byNext_way hn rfl]
    exact addCall_follows (next_rest_suffix hn) _
  · next beyond hn =>
    rw [byNext_past hn rfl, placing, byNext_way hn rfl]
    exact namedCall_follows (next_rest_suffix hn)
  · next c beyond hlt heq hne hP hsharp hparen hgt hbar hR hand hn =>
    -- A digit calls a group by its number, a sign with a digit one counted from here; all else is flags.
    have hspecial : specialWays r.isVerbose c = none := by
      rw [specialWays] <;> assumption
    have hcall : callWays r.isVerbose c =
        if c.isDigit then some (scanNumberedCall r.isVerbose c) else none := by
      rw [callWays] <;> assumption
    rw [byNext_past hn hspecial, placing]
    split
    · next hdigit =>
      rw [byNext_way hn (by rw [hcall, if_pos hdigit])]
      exact addCall_follows ((spanWhile_suffix _ _ _).trans (next_rest_suffix hn)) _
    · next hdigit =>
      rw [byNext_past hn (by rw [hcall, if_neg hdigit])]
      have hrelative : isRelative r.isVerbose rest =
          ((c = '+' || c = '-') && (next r.isVerbose beyond).any fun n => n.1.isDigit) := by
        rw [isRelative, hn]
      rw [hrelative]
      split
      · next hsign =>
        rw [Bool.and_eq_true, Bool.or_eq_true, decide_eq_true_eq, decide_eq_true_eq] at hsign
        rcases hsign.1 with rfl | rfl
        · rw [byNext_way hn rfl]
          exact relativeCall_follows _ (next_rest_suffix hn)
        · rw [byNext_way hn rfl]
          exact relativeCall_follows _ (next_rest_suffix hn)
      · rw [scanFlags_placed]
        exact flagGroup_follows
  · next hn =>
    rw [byNext_otherwise fun c beyond h => absurd h (by simp [hn]), placing,
      byNext_otherwise fun c beyond h => absurd h (by simp [hn])]
    have hrelative : isRelative r.isVerbose rest = false := by rw [isRelative, hn]
    rw [hrelative, if_neg Bool.false_ne_true, scanFlags_placed]
    exact flagGroup_follows

theorem verb_eq (word place : List Char) :
    r.verb word place rest =
      match verbNode? (String.ofList word) with
      | some n => do return r.push n (← expect r.isVerbose ")" rest)
      | none => fault .unknownVerb place := by
  rw [verb]
  generalize String.ofList word = word
  split
  · rfl
  · rfl
  · rfl
  · rfl
  · have hnone : verbNode? word = none := by
      rw [verbNode?] <;> assumption
    rw [hnone]
    rfl

theorem verb_follows (place : List Char) :
    r.Follows (scanVerb r.isVerbose rest)
      (r.verb (verbWord r.isVerbose rest).1 place (verbWord r.isVerbose rest).2) := by
  rw [scanVerb, verb_eq]
  cases verbNode? (String.ofList (verbWord r.isVerbose rest).1) with
  | none => exact follows_error
  | some n =>
    cases expect r.isVerbose ")" (verbWord r.isVerbose rest).2 with
    | error e => exact follows_error
    | ok beyond => rfl

theorem paren_follows : r.Follows (scanParen r.isVerbose rest) (r.paren rest) := by
  rw [paren, scanParen]
  split
  · next beyond hn =>
    rw [byNext_way hn rfl]
    exact special_follows
  · next beyond hn =>
    rw [byNext_past hn rfl]
    have hverb : isVerb r.isVerbose rest =
        (verbWord r.isVerbose beyond).1.head?.any isLetter := by
      simp only [isVerb, hn]
    rw [hverb]
    change r.Follows _ (if (verbWord r.isVerbose beyond).1.head?.any _ then r.verb _ beyond _ else _)
    split
    · rw [byNext_way hn rfl]
      exact verb_follows _
    · rfl
  · next hquestion hstar =>
    have hverb : isVerb r.isVerbose rest = false := by
      rw [isVerb]
      split
      · next beyond hn => exact absurd hn (hstar _)
      · rfl
    rw [byNext_otherwise, hverb]
    · rfl
    · intro c beyond hn
      rw [parenWays]
      rintro rfl
      exact hquestion _ hn

theorem escape_follows : r.Follows (scanEscape r.flags rest) (r.escape rest) := by
  rw [scanEscape, escape]
  cases readEscape r.flags false rest with
  | error e => exact follows_error
  | ok found =>
    obtain ⟨e, beyond⟩ := found
    cases e <;> rfl

theorem set_follows :
    r.Follows ((readSet r.flags rest).map fun found => (.push found.1, found.2))
      (do
        let (n, rest) ← readSet r.flags rest
        return r.push n rest) := by
  cases readSet r.flags rest with
  | error e => exact follows_error
  | ok found => rfl

theorem readChar_follows (r : Reader) (rest : List Char) (c : Char) :
    r.Follows (scan r.flags c rest) (r.readChar c rest) := by
  unfold readChar
  split
  · rfl
  · rfl
  · exact paren_follows
  · exact escape_follows
  · exact set_follows
  · rfl
  · rfl
  · rfl
  · exact quantify_follows _
  · exact quantify_follows _
  · exact quantify_follows _
  · exact brace_follows
  · rw [scan]
    · rfl
    all_goals assumption

/-- Reading on at a character comes to what the action that is scanned there makes of the reader. -/
theorem readChar_eq_ok_iff {r s : Reader} {rest : List Char} {c : Char} :
    r.readChar c rest = .ok s ↔
      ∃ action beyond, scan r.flags c rest = .ok (action, beyond) ∧ r.act action beyond = some s := by
  have hfollows := r.readChar_follows rest c
  cases hscan : scan r.flags c rest with
  | error e =>
    rw [hscan] at hfollows
    change (r.readChar c rest).toOption = none at hfollows
    constructor
    · intro hread
      rw [hread] at hfollows
      cases hfollows
    · rintro ⟨action, beyond, h, -⟩
      cases h
  | ok found =>
    obtain ⟨action, beyond⟩ := found
    rw [hscan] at hfollows
    change (r.readChar c rest).toOption = r.act action beyond at hfollows
    rw [← toOption_eq_some, hfollows]
    constructor
    · exact fun h => ⟨action, beyond, rfl, h⟩
    · rintro ⟨action', beyond', heq, h⟩
      obtain ⟨rfl, rfl⟩ := Prod.mk.inj (Except.ok.inj heq)
      exact h

end Reader
end ReleaseMatch.Pattern
