import Mathlib.Data.Nat.Digits.Lemmas
import ReleaseMatch.Proofs.Document.Own
set_option autoImplicit false

/-!
# What members of documents may be

The values that a JSON document is made of, and those among them that may stand under the keys of a
condition set: each reader takes exactly the values of one form, and what it makes of them is told here
without the reader.
-/
namespace ReleaseMatch

/-- A value that can be written as JSON: there are no bytes and no moments in it, and its keys are
texts. -/
inductive Value.IsJson : Value → Prop
  | null : IsJson .null
  | bool (b : Bool) : IsJson (.bool b)
  | int (n : Int) : IsJson (.int n)
  | float (x : Number.Binary64) : IsJson (.float x)
  | text (s : String) : IsJson (.text s)
  | list {xs : List Value} (h : ∀ x ∈ xs, IsJson x) : IsJson (.list xs)
  | map {entries : List (Value × Value)} (hkeys : ∀ e ∈ entries, ∃ key, e.1 = .text key)
      (hvalues : ∀ e ∈ entries, IsJson e.2) : IsJson (.map entries)

namespace Value

variable {entries : List (Value × Value)} {key : String} {v : Value}

theorem get?_cons_of_ne {k : Value} (hne : k ≠ .text key) : get? ((k, v) :: entries) key = get? entries key := by
  cases k with
  | text s => rw [get?, if_neg (mt (congrArg Value.text) hne)]
  | _ => rfl

theorem mem_of_get? (h : get? entries key = some v) : (.text key, v) ∈ entries := by
  fun_induction get? entries key with
  | case1 => exact absurd h (by simp)
  | case2 =>
    obtain rfl := Option.some.inj h
    exact List.mem_cons_self
  | case3 _ _ _ _ ih => exact List.mem_cons_of_mem _ (ih h)
  | case4 _ _ _ ih => exact List.mem_cons_of_mem _ (ih h)

theorem get?_isSome_of_mem (h : (.text key, v) ∈ entries) : (get? entries key).isSome = true := by
  fun_induction get? entries key with
  | case1 => exact absurd h (by simp)
  | case2 => rfl
  | case3 k _ rest hkey ih =>
    refine ih (List.mem_of_ne_of_mem (fun heq => ?_) h)
    exact hkey (Value.text.inj (Prod.mk.inj heq).1).symm
  | case4 e rest hkey ih =>
    refine ih (List.mem_of_ne_of_mem (fun heq => ?_) h)
    exact hkey key v heq.symm

theorem IsJson.of_get? (hjson : (Value.map entries).IsJson) (h : get? entries key = some v) : v.IsJson := by
  cases hjson with
  | map _ hvalues => exact hvalues _ (mem_of_get? h)

end Value

theorem Operator.ofName?_eq_some_iff {s : String} {op : Operator} :
    ofName? s = some op ↔ s = op.name := by
  constructor
  · intro h
    rw [ofName?] at h
    have hname := List.find?_some h
    exact (eq_of_beq hname).symm
  · rintro rfl
    exact ofName?_name op

theorem Combinator.ofName?_eq_some_iff {s : String} {c : Combinator} :
    ofName? s = some c ↔ s = c.name := by
  constructor
  · intro h
    rw [ofName?] at h
    split at h
    · next hs =>
      obtain rfl := Option.some.inj h
      exact hs
    · split at h
      · next hs =>
        obtain rfl := Option.some.inj h
        exact hs
      · exact absurd h (by simp)
  · rintro rfl
    exact ofName?_name c

namespace Document

/-! Forms -/

inductive IsText : Value → String → Prop
  | text (s : String) : IsText (.text s) s

/-- A text, or what is shown as one: nothing as no text at all, and numbers as they are printed, unless
that takes too many digits. -/
inductive ShownAs : Value → String → Prop
  | null : ShownAs .null ""
  | bool (b : Bool) : ShownAs (.bool b) (if b then "true" else "false")
  | int {n : Int} (h : (Nat.digits 10 n.natAbs).length ≤ 4300) : ShownAs (.int n) (toString n)
  | float (x : Number.Binary64) : ShownAs (.float x) x.text
  | text (s : String) : ShownAs (.text s) s

def flagWords (b : Bool) : List String :=
  if b then ["1", "t", "y", "yes", "on", "true"] else ["0", "f", "n", "no", "off", "false"]

def flagNumber (b : Bool) : Int := if b then 1 else 0

/-- A flag: a boolean, a one or a zero, or a word, in any case of ASCII letters. -/
inductive FlagFor : Value → Bool → Prop
  | bool (b : Bool) : FlagFor (.bool b) b
  | int (b : Bool) : FlagFor (.int (flagNumber b)) b
  | float {x : Number.Binary64} {b : Bool} (h : x.toInt? = some (flagNumber b)) :
      FlagFor (.float x) b
  | word {s : String} {b : Bool} (h : String.ofList (s.toList.map Char.toLower) ∈ flagWords b) :
      FlagFor (.text s) b

inductive Joins : Value → Combinator → Prop
  | named {s : String} {c : Combinator} (h : Text.uppered s = c.name) : Joins (.text s) c

/-- A value of some form, or null. -/
inductive Perhaps {α : Type} (R : Value → α → Prop) : Value → Option α → Prop
  | null : Perhaps R .null none
  | given {v : Value} {a : α} (h : R v a) : Perhaps R v (some a)

inductive Under {α : Type} (entries : Entries) (key : String) (R : Value → α → Prop) (absent : α) :
    α → Prop
  | given {v : Value} {a : α} (hget : Value.get? entries key = some v) (h : R v a) :
      Under entries key R absent a
  | absent (hget : Value.get? entries key = none) : Under entries key R absent absent

def KeysAmong (names : List String) (entries : Entries) : Prop :=
  ∀ e ∈ entries, ∃ key ∈ names, e.1 = .text key

/-! Readers -/

section

variable {v : Value}

theorem readText_eq_ok_iff (hjson : v.IsJson) {s : String} : readText v = .ok s ↔ IsText v s := by
  constructor
  · intro h
    cases hjson with
    | text s' =>
      obtain rfl := Except.ok.inj h
      exact .text s'
    | _ => exact absurd h (by simp [readText, refuse])
  · rintro ⟨⟩
    rfl

theorem readValue_int_eq_ok_iff {n : Int} {s : String} :
    readValue (.int n) = .ok s ↔ (Nat.digits 10 n.natAbs).length ≤ maxDigits ∧ s = toString n := by
  have hpow (k : Nat) : Nat.pow 10 k = 10 ^ k := rfl
  rw [Nat.digits_length_le_iff (by decide), readValue, hpow]
  split
  · next h => exact iff_of_false (by simp [refuse]) fun h' => absurd h'.1 (Nat.not_lt.2 h)
  · next h =>
    rw [and_iff_right (Nat.not_le.1 h), Except.ok.injEq]
    exact eq_comm

theorem readValue_eq_ok_iff (hjson : v.IsJson) {s : String} : readValue v = .ok s ↔ ShownAs v s := by
  constructor
  · intro h
    cases hjson with
    | null =>
      obtain rfl := Except.ok.inj h
      exact .null
    | bool b =>
      obtain rfl := Except.ok.inj h
      exact .bool b
    | int n =>
      obtain ⟨hdigits, rfl⟩ := readValue_int_eq_ok_iff.1 h
      exact .int hdigits
    | float x =>
      obtain rfl := Except.ok.inj h
      exact .float x
    | text s' =>
      obtain rfl := Except.ok.inj h
      exact .text s'
    | _ => exact absurd h (by simp [readValue, readText, refuse])
  · intro h
    cases h with
    | int hdigits => exact readValue_int_eq_ok_iff.2 ⟨hdigits, rfl⟩
    | _ => rfl

theorem clearFlag_eq_ok_iff {o : Option Bool} {b : Bool} : clearFlag o = .ok b ↔ o = some b := by
  cases o with
  | none => simp [clearFlag, refuse]
  | some c => simp [clearFlag]

theorem wordFlag?_eq_some_iff {s : String} {b : Bool} :
    wordFlag? s = some b ↔ String.ofList (s.toList.map Char.toLower) ∈ flagWords b := by
  rw [wordFlag?]
  generalize String.ofList (s.toList.map Char.toLower) = w
  have hdisjoint : w ∈ flagWords true → w ∉ flagWords false := by
    simp only [flagWords, if_true, List.mem_cons, List.not_mem_nil, or_false]
    rintro (rfl | rfl | rfl | rfl | rfl | rfl) <;> decide
  have htrue : ["1", "t", "y", "yes", "on", "true"].contains w = true ↔ w ∈ flagWords true :=
    List.contains_iff_mem
  have hfalse : ["0", "f", "n", "no", "off", "false"].contains w = true ↔ w ∈ flagWords false :=
    List.contains_iff_mem
  simp only [htrue, hfalse]
  cases b <;> by_cases h : w ∈ flagWords true <;> simp [h, hdisjoint]

theorem numberFlag_eq_ok_iff {n : Int} {b : Bool} : numberFlag n = .ok b ↔ n = flagNumber b := by
  rw [numberFlag, clearFlag_eq_ok_iff]
  cases b <;> simp only [flagNumber] <;> grind

theorem readFlag_eq_ok_iff (hjson : v.IsJson) {b : Bool} : readFlag v = .ok b ↔ FlagFor v b := by
  constructor
  · intro h
    cases hjson with
    | bool b' =>
      obtain rfl := Except.ok.inj h
      exact .bool b'
    | int n =>
      rw [readFlag] at h
      split at h
      · rw [numberFlag_eq_ok_iff] at h
        exact h ▸ .int b
      · exact absurd h (by simp [refuse])
    | float x =>
      rw [readFlag] at h
      split at h
      · next n hn =>
        split at h
        · exact .float (hn.trans (congrArg some (numberFlag_eq_ok_iff.1 h)))
        · exact absurd h (by simp [refuse])
      · exact absurd h (by simp [refuse])
    | text s => exact .word (wordFlag?_eq_some_iff.1 (clearFlag_eq_ok_iff.1 h))
    | _ => exact absurd h (by simp [readFlag, refuse])
  · intro h
    cases h with
    | bool => rfl
    | int =>
      rw [readFlag, if_pos (by cases b <;> decide)]
      exact numberFlag_eq_ok_iff.2 rfl
    | float hx =>
      rw [readFlag, hx]
      dsimp only
      rw [if_pos (by cases b <;> decide)]
      exact numberFlag_eq_ok_iff.2 rfl
    | word hs => exact clearFlag_eq_ok_iff.2 (wordFlag?_eq_some_iff.2 hs)

theorem readOperator_eq_ok_iff (hjson : v.IsJson) {op : Operator} :
    readOperator v = .ok op ↔ v = .text op.name := by
  constructor
  · intro h
    obtain ⟨s, hs, hop⟩ := bind_eq_ok.1 h
    cases hname : Operator.ofName? s with
    | none => exact absurd hop (by simp [hname, refuse])
    | some op' =>
      rw [hname] at hop
      obtain rfl := Except.ok.inj hop
      rw [← Operator.ofName?_eq_some_iff.1 hname]
      cases (readText_eq_ok_iff hjson).1 hs
      rfl
  · rintro rfl
    simp only [readOperator, readText, bind, Except.bind, Operator.ofName?_name]
    rfl

theorem readCombinator_eq_ok_iff {c : Option Combinator} :
    readCombinator v = .ok c ↔ Perhaps Joins v c := by
  constructor
  · intro h
    cases v with
    | null =>
      obtain rfl := Except.ok.inj h
      exact .null
    | text s =>
      rw [readCombinator] at h
      cases hname : Combinator.ofName? (Text.uppered s) with
      | none => simp [hname, refuse] at h
      | some d =>
        simp only [hname, Except.ok.injEq] at h
        subst h
        exact .given (.named (Combinator.ofName?_eq_some_iff.1 hname))
    | _ => exact absurd h (by simp [readCombinator, refuse])
  · rintro (_ | ⟨⟨h⟩⟩)
    · rfl
    · rw [readCombinator, h, Combinator.ofName?_name]

theorem optional_eq_ok_iff {α : Type} {read : Value → Checked α} {R : Value → α → Prop}
    (hread : ∀ a, read v = .ok a ↔ R v a) (hnull : ∀ a, ¬R .null a) {o : Option α} :
    optional read v = .ok o ↔ Perhaps R v o := by
  cases hv : unlessNull v with
  | none =>
    obtain rfl : v = .null := by
      cases v with
      | null => rfl
      | _ => exact absurd hv (by simp [unlessNull])
    constructor
    · intro h
      obtain rfl := Except.ok.inj h
      exact .null
    · rintro (_ | h)
      · rfl
      · exact absurd h (hnull _)
  | some w =>
    have hne : v ≠ .null := by
      rintro rfl
      exact absurd hv (by simp [unlessNull])
    obtain rfl : v = w := by
      cases v with
      | null => exact absurd rfl hne
      | _ => exact Option.some.inj hv
    rw [optional_eq hv, map_eq_ok_iff]
    constructor
    · rintro ⟨a, ha, rfl⟩
      exact .given ((hread a).1 ha)
    · rintro (_ | h)
      · exact absurd rfl hne
      · exact ⟨_, (hread _).2 h, rfl⟩

end

theorem member_eq_ok_iff {α : Type} {entries : Entries} {key : String} {read : Value → Checked α}
    {R : Value → α → Prop} {absent a : α}
    (hread : ∀ v, Value.get? entries key = some v → ∀ a, read v = .ok a ↔ R v a) :
    member entries key read absent = .ok a ↔ Under entries key R absent a := by
  constructor
  · intro h
    obtain ⟨hget, rfl⟩ | ⟨v, hget, hv⟩ := member_eq_ok h
    · exact .absent hget
    · exact .given hget ((hread v hget a).1 hv)
  · rintro (⟨hget, h⟩ | hget)
    · rw [member, hget]
      exact mapError_eq_ok_iff.2 ((hread _ hget a).2 h)
    · rw [member, hget]

theorem checkKeys_eq_ok_iff {names : List String} {entries : Entries} :
    checkKeys names entries = .ok () ↔ KeysAmong names entries := by
  rw [KeysAmong]
  fun_induction checkKeys names entries with
  | case1 => simp
  | case2 s v rest hknown ih =>
    rw [List.forall_mem_cons, ih]
    exact (and_iff_right ⟨s, List.contains_iff_mem.1 hknown, rfl⟩).symm
  | case3 s v rest hknown =>
    refine iff_of_false (by simp) fun h => ?_
    obtain ⟨key, hkey, heq⟩ := h _ List.mem_cons_self
    obtain rfl := Value.text.inj heq
    exact hknown (List.contains_iff_mem.2 hkey)
  | case4 k v rest hkey =>
    refine iff_of_false (by simp) fun h => ?_
    obtain ⟨key, -, heq⟩ := h _ List.mem_cons_self
    exact hkey key heq

theorem exists_under_iff {α : Type} {entries : Entries} {key : String} {R : Value → α → Prop}
    {absent : α} : (∃ a, Under entries key R absent a) ↔
      ∀ v, Value.get? entries key = some v → ∃ a, R v a := by
  constructor
  · rintro ⟨a, ⟨hget, h⟩ | hget⟩ v hv
    · obtain rfl := Option.some.inj (hget.symm.trans hv)
      exact ⟨a, h⟩
    · rw [hget] at hv
      exact absurd hv (by simp)
  · intro h
    cases hget : Value.get? entries key with
    | none => exact ⟨absent, .absent hget⟩
    | some v =>
      obtain ⟨a, ha⟩ := h v hget
      exact ⟨a, .given hget ha⟩

end Document
end ReleaseMatch
