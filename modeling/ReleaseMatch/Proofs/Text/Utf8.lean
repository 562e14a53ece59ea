import ReleaseMatch.Proofs.Result
import ReleaseMatch.Proofs.Text.Case
import ReleaseMatch.Text.Utf8
set_option autoImplicit false

/-!
# Reading what has been written

Bytes are read as characters exactly if they are what writing these characters gives. By the first byte
there are four forms of a character, and in each the bytes behind it are within bounds that leave just
the numbers of that form.
-/
namespace ReleaseMatch.Text.Utf8

/-! First bytes -/

section

variable {b : UInt8}

theorem shape?_one (h : b.toNat < 0x80) : shape? b = some (0, 0, 0) := by
  rw [shape?, if_pos h]

theorem shape?_two (h : 0xC2 ≤ b.toNat) (h' : b.toNat < 0xE0) : shape? b = some (1, 0x80, 0xBF) := by
  rw [shape?, if_neg (by omega), if_neg (by omega), if_pos h']

/-- The bounds leave out what takes two bytes, and surrogates. -/
theorem shape?_three (h : 0xE0 ≤ b.toNat) (h' : b.toNat < 0xF0) : shape? b =
    some (2, if b.toNat = 0xE0 then 0xA0 else 0x80, if b.toNat = 0xED then 0x9F else 0xBF) := by
  rw [shape?, if_neg (by omega), if_neg (by omega), if_neg (by omega)]
  grind

/-- The bounds leave out what takes three bytes, and what is no character. -/
theorem shape?_four (h : 0xF0 ≤ b.toNat) (h' : b.toNat ≤ 0xF4) : shape? b =
    some (3, if b.toNat = 0xF0 then 0x90 else 0x80, if b.toNat = 0xF4 then 0x8F else 0xBF) := by
  rw [shape?, if_neg (by omega), if_neg (by omega), if_neg (by omega), if_neg (by omega),
    if_neg (by omega), if_neg (by omega)]
  grind

theorem shape?_none (h : 0x80 ≤ b.toNat) (h' : b.toNat < 0xC2 ∨ 0xF4 < b.toNat) :
    shape? b = none := by
  rw [shape?]
  grind

end

/-! The bytes behind -/

theorem continued_succ_eq_ok_iff {more low high n : Nat} {bs : List UInt8} {r : Nat × List UInt8} :
    continued (more + 1) low high n bs = .ok r ↔ ∃ b rest, bs = b :: rest ∧ low ≤ b.toNat ∧
      b.toNat ≤ high ∧ continued more 0x80 0xBF (n * 64 + b.toNat % 64) rest = .ok r := by
  constructor
  · intro h
    cases bs with
    | nil => exact absurd h (by simp [continued])
    | cons b rest =>
      rw [continued] at h
      split at h
      · next hin =>
        simp only [Bool.and_eq_true, decide_eq_true_eq] at hin
        split at h
        · next hmore => exact ⟨b, rest, rfl, hin.1, hin.2, hmore.trans h⟩
        · exact absurd h (by simp)
      · exact absurd h (by simp)
  · rintro ⟨b, rest, rfl, hlow, hhigh, hmore⟩
    rw [continued, if_pos (by simp [hlow, hhigh]), hmore]

/-! Characters -/

/-- A byte that goes on with a character. -/
structure IsTail (b : UInt8) : Prop where
  low : 0x80 ≤ b.toNat
  high : b.toNat ≤ 0xBF

inductive CharBytes : Nat → List UInt8 → Prop
  | one {b : UInt8} (h : b.toNat < 0x80) : CharBytes b.toNat [b]
  | two {b b1 : UInt8} (h : 0xC2 ≤ b.toNat) (h' : b.toNat < 0xE0) (h1 : IsTail b1) :
      CharBytes (b.toNat % 32 * 64 + b1.toNat % 64) [b, b1]
  | three {b b1 b2 : UInt8} (h : 0xE0 ≤ b.toNat) (h' : b.toNat < 0xF0) (h1 : IsTail b1)
      (hlow : b.toNat = 0xE0 → 0xA0 ≤ b1.toNat) (hhigh : b.toNat = 0xED → b1.toNat ≤ 0x9F)
      (h2 : IsTail b2) :
      CharBytes ((b.toNat % 16 * 64 + b1.toNat % 64) * 64 + b2.toNat % 64) [b, b1, b2]
  | four {b b1 b2 b3 : UInt8} (h : 0xF0 ≤ b.toNat) (h' : b.toNat ≤ 0xF4) (h1 : IsTail b1)
      (hlow : b.toNat = 0xF0 → 0x90 ≤ b1.toNat) (hhigh : b.toNat = 0xF4 → b1.toNat ≤ 0x8F)
      (h2 : IsTail b2) (h3 : IsTail b3) :
      CharBytes (((b.toNat % 8 * 64 + b1.toNat % 64) * 64 + b2.toNat % 64) * 64 + b3.toNat % 64)
        [b, b1, b2, b3]

/-- The bounds of a second byte are tighter than those of the others in some cases. -/
theorem isTail_within_iff {b : UInt8} {p q : Prop} [Decidable p] [Decidable q] {low high : Nat}
    (hlow : 0x80 ≤ low) (hhigh : high ≤ 0xBF) :
    ((if p then low else 0x80) ≤ b.toNat ∧ b.toNat ≤ if q then high else 0xBF) ↔
      IsTail b ∧ (p → low ≤ b.toNat) ∧ (q → b.toNat ≤ high) := by
  constructor
  · rintro ⟨h, h'⟩
    refine ⟨⟨?_, ?_⟩, fun hp => by rwa [if_pos hp] at h, fun hq => by rwa [if_pos hq] at h'⟩
    · split at h <;> omega
    · split at h' <;> omega
  · rintro ⟨⟨h, h'⟩, hp, hq⟩
    constructor
    · split
      · next hyes => exact hp hyes
      · exact h
    · split
      · next hyes => exact hq hyes
      · exact h'

theorem toUInt8_eq {n : Nat} {b : UInt8} (h : n = b.toNat) : n.toUInt8 = b := by
  subst h
  exact UInt8.ofNat_toNat

namespace CharBytes

theorem isValidChar {n : Nat} {bytes : List UInt8} (h : CharBytes n bytes) : n.isValidChar := by
  rw [Nat.isValidChar]
  cases h with
  | one => omega
  | two => omega
  | three h h' h1 hlow hhigh h2 =>
    obtain ⟨hlow1, hhigh1⟩ := h1
    omega
  | four h h' h1 hlow hhigh h2 h3 =>
    obtain ⟨hlow1, hhigh1⟩ := h1
    omega

theorem encodeChar_eq {n : Nat} {bytes : List UInt8} (h : CharBytes n bytes) :
    encodeChar (Char.ofNat n) = bytes := by
  rw [encodeChar, toNat_ofNat h.isValidChar]
  cases h with
  | one h => simp [h]
  | two h h' h1 =>
    obtain ⟨hlow1, hhigh1⟩ := h1
    dsimp only
    rw [if_neg (by omega), if_pos (by omega), List.cons.injEq, List.cons.injEq]
    exact ⟨toUInt8_eq (by omega), toUInt8_eq (by omega), rfl⟩
  | three h h' h1 hlow hhigh h2 =>
    obtain ⟨hlow1, hhigh1⟩ := h1
    obtain ⟨hlow2, hhigh2⟩ := h2
    dsimp only
    rw [if_neg (by omega), if_neg (by omega), if_pos (by omega), List.cons.injEq, List.cons.injEq,
      List.cons.injEq]
    exact ⟨toUInt8_eq (by omega), toUInt8_eq (by omega), toUInt8_eq (by omega), rfl⟩
  | four h h' h1 hlow hhigh h2 h3 =>
    obtain ⟨hlow1, hhigh1⟩ := h1
    obtain ⟨hlow2, hhigh2⟩ := h2
    obtain ⟨hlow3, hhigh3⟩ := h3
    dsimp only
    rw [if_neg (by omega), if_neg (by omega), if_neg (by omega), List.cons.injEq, List.cons.injEq,
      List.cons.injEq, List.cons.injEq]
    exact ⟨toUInt8_eq (by omega), toUInt8_eq (by omega), toUInt8_eq (by omega),
      toUInt8_eq (by omega), rfl⟩

theorem of_eq {n m : Nat} {bytes : List UInt8} (h : CharBytes m bytes) (heq : m = n) :
    CharBytes n bytes := heq ▸ h

theorem of_encodeChar (c : Char) : CharBytes c.toNat (encodeChar c) := by
  have hvalid : c.toNat.isValidChar := c.valid
  rw [Nat.isValidChar] at hvalid
  rw [encodeChar]
  generalize c.toNat = n at hvalid
  dsimp only
  have hbyte {k : Nat} (hk : k < 256) : k.toUInt8.toNat = k := by
    simpa using Nat.mod_eq_of_lt hk
  have htail (m : Nat) : (0x80 + n / m % 64).toUInt8.toNat = 0x80 + n / m % 64 := hbyte (by omega)
  have hrange (m : Nat) : IsTail (0x80 + n / m % 64).toUInt8 := by
    constructor <;> rw [htail] <;> omega
  split
  · next h =>
    have hb := hbyte (k := n) (by omega)
    exact of_eq (.one (by omega)) hb
  split
  · next h =>
    have hb := hbyte (k := 0xC0 + n / 64) (by omega)
    exact of_eq (.two (by omega) (by omega) (hrange 1)) (by rw [hb, htail]; omega)
  split
  · next h =>
    have hb := hbyte (k := 0xE0 + n / 4096) (by omega)
    refine of_eq (.three (by omega) (by omega) (hrange 64) ?_ ?_ (hrange 1)) ?_
    · rw [hb, htail]
      omega
    · rw [hb, htail]
      omega
    · rw [hb, htail, htail]
      omega
  · have hb := hbyte (k := 0xF0 + n / 262144) (by omega)
    refine of_eq (.four (by omega) (by omega) (hrange 4096) ?_ ?_ (hrange 64) (hrange 1)) ?_
    · rw [hb, htail]
      omega
    · rw [hb, htail]
      omega
    · rw [hb, htail, htail, htail]
      omega

end CharBytes

/-! Reading -/

section

variable (position : Nat) {next : Nat} {b : UInt8} {bs rest : List UInt8} {c : Char}

theorem decodeChar_of_shape? {more low high : Nat} (h : shape? b = some (more, low, high)) :
    (∃ next, decodeChar position b bs = .ok (c, next, rest)) ↔
      ∃ n, continued more low high (leadBits b more) bs = .ok (n, rest) ∧ Char.ofNat n = c := by
  rw [decodeChar, h]
  cases hcontinued : continued more low high (leadBits b more) bs with
  | error f => simp [hcontinued]
  | ok r =>
    obtain ⟨n, rest'⟩ := r
    simp [hcontinued]
    grind

theorem decodeChar_of_charBytes {n : Nat} {bytes : List UInt8} (h : CharBytes n bytes)
    (hbytes : b :: bs = bytes ++ rest) :
    ∃ next, decodeChar position b bs = .ok (Char.ofNat n, next, rest) := by
  cases h with
  | one h =>
    obtain ⟨rfl, rfl⟩ := List.cons.inj hbytes
    exact (decodeChar_of_shape? position (shape?_one h)).2 ⟨_, rfl, rfl⟩
  | two h h' h1 =>
    obtain ⟨rfl, rfl⟩ := List.cons.inj hbytes
    refine (decodeChar_of_shape? position (shape?_two h h')).2 ⟨_, ?_, rfl⟩
    exact continued_succ_eq_ok_iff.2 ⟨_, _, rfl, h1.low, h1.high, rfl⟩
  | three h h' h1 hlow hhigh h2 =>
    obtain ⟨rfl, rfl⟩ := List.cons.inj hbytes
    refine (decodeChar_of_shape? position (shape?_three h h')).2 ⟨_, ?_, rfl⟩
    obtain ⟨hlow1, hhigh1⟩ := (isTail_within_iff (by omega) (by omega)).2 ⟨h1, hlow, hhigh⟩
    exact continued_succ_eq_ok_iff.2 ⟨_, _, rfl, hlow1, hhigh1,
      continued_succ_eq_ok_iff.2 ⟨_, _, rfl, h2.low, h2.high, rfl⟩⟩
  | four h h' h1 hlow hhigh h2 h3 =>
    obtain ⟨rfl, rfl⟩ := List.cons.inj hbytes
    refine (decodeChar_of_shape? position (shape?_four h h')).2 ⟨_, ?_, rfl⟩
    obtain ⟨hlow1, hhigh1⟩ := (isTail_within_iff (by omega) (by omega)).2 ⟨h1, hlow, hhigh⟩
    exact continued_succ_eq_ok_iff.2 ⟨_, _, rfl, hlow1, hhigh1,
      continued_succ_eq_ok_iff.2 ⟨_, _, rfl, h2.low, h2.high,
        continued_succ_eq_ok_iff.2 ⟨_, _, rfl, h3.low, h3.high, rfl⟩⟩⟩

theorem charBytes_of_decodeChar (h : decodeChar position b bs = .ok (c, next, rest)) :
    ∃ n bytes, CharBytes n bytes ∧ c = Char.ofNat n ∧ b :: bs = bytes ++ rest := by
  obtain hb | hb | hb | hb | hb : b.toNat < 0x80 ∨
      (0x80 ≤ b.toNat ∧ (b.toNat < 0xC2 ∨ 0xF4 < b.toNat)) ∨ (0xC2 ≤ b.toNat ∧ b.toNat < 0xE0) ∨
      (0xE0 ≤ b.toNat ∧ b.toNat < 0xF0) ∨ (0xF0 ≤ b.toNat ∧ b.toNat ≤ 0xF4) := by omega
  · obtain ⟨n, hn, rfl⟩ := (decodeChar_of_shape? position (shape?_one hb)).1 ⟨_, h⟩
    obtain ⟨rfl, rfl⟩ := Prod.mk.inj (Except.ok.inj hn)
    exact ⟨_, _, .one hb, rfl, rfl⟩
  · rw [decodeChar, shape?_none hb.1 hb.2] at h
    exact absurd h (by simp)
  · obtain ⟨n, hn, rfl⟩ := (decodeChar_of_shape? position (shape?_two hb.1 hb.2)).1 ⟨_, h⟩
    obtain ⟨b1, _, rfl, hlow1, hhigh1, hn⟩ := continued_succ_eq_ok_iff.1 hn
    obtain ⟨rfl, rfl⟩ := Prod.mk.inj (Except.ok.inj hn)
    exact ⟨_, _, .two hb.1 hb.2 ⟨hlow1, hhigh1⟩, rfl, rfl⟩
  · obtain ⟨n, hn, rfl⟩ := (decodeChar_of_shape? position (shape?_three hb.1 hb.2)).1 ⟨_, h⟩
    obtain ⟨b1, _, rfl, hlow1, hhigh1, hn⟩ := continued_succ_eq_ok_iff.1 hn
    obtain ⟨b2, _, rfl, hlow2, hhigh2, hn⟩ := continued_succ_eq_ok_iff.1 hn
    obtain ⟨rfl, rfl⟩ := Prod.mk.inj (Except.ok.inj hn)
    obtain ⟨h1, hlow, hhigh⟩ := (isTail_within_iff (by omega) (by omega)).1 ⟨hlow1, hhigh1⟩
    exact ⟨_, _, .three hb.1 hb.2 h1 hlow hhigh ⟨hlow2, hhigh2⟩, rfl, rfl⟩
  · obtain ⟨n, hn, rfl⟩ := (decodeChar_of_shape? position (shape?_four hb.1 hb.2)).1 ⟨_, h⟩
    obtain ⟨b1, _, rfl, hlow1, hhigh1, hn⟩ := continued_succ_eq_ok_iff.1 hn
    obtain ⟨b2, _, rfl, hlow2, hhigh2, hn⟩ := continued_succ_eq_ok_iff.1 hn
    obtain ⟨b3, _, rfl, hlow3, hhigh3, hn⟩ := continued_succ_eq_ok_iff.1 hn
    obtain ⟨rfl, rfl⟩ := Prod.mk.inj (Except.ok.inj hn)
    obtain ⟨h1, hlow, hhigh⟩ := (isTail_within_iff (by omega) (by omega)).1 ⟨hlow1, hhigh1⟩
    exact ⟨_, _, .four hb.1 hb.2 h1 hlow hhigh ⟨hlow2, hhigh2⟩ ⟨hlow3, hhigh3⟩, rfl, rfl⟩

theorem decodeChar_eq_ok_iff :
    (∃ next, decodeChar position b bs = .ok (c, next, rest)) ↔ b :: bs = encodeChar c ++ rest := by
  constructor
  · rintro ⟨next, h⟩
    obtain ⟨n, bytes, hbytes, rfl, heq⟩ := charBytes_of_decodeChar position h
    rw [heq, hbytes.encodeChar_eq]
  · intro h
    have hread := decodeChar_of_charBytes position (CharBytes.of_encodeChar c) h
    rwa [Char.ofNat_toNat] at hread

end

theorem encodeChar_length_pos (c : Char) : 0 < (encodeChar c).length := by
  have hbytes := CharBytes.of_encodeChar c
  generalize c.toNat = n, encodeChar c = bytes at hbytes
  cases hbytes <;> simp

theorem encode_eq_nil_iff {cs : List Char} : encode cs = [] ↔ cs = [] := by
  cases cs with
  | nil => simp [encode]
  | cons c cs =>
    have hpos := encodeChar_length_pos c
    refine iff_of_false (fun h => ?_) (by simp)
    rw [encode, List.flatMap_cons, List.append_eq_nil_iff] at h
    simp [h.1] at hpos

theorem decodeFrom_eq_ok_iff {fuel position : Nat} {bs : List UInt8} {cs : List Char}
    (hfuel : bs.length ≤ fuel) : decodeFrom fuel position bs = .ok cs ↔ encode cs = bs := by
  induction fuel generalizing position bs cs with
  | zero =>
    obtain rfl := List.length_eq_zero_iff.1 (Nat.le_zero.1 hfuel)
    rw [decodeFrom, Except.ok.injEq, encode_eq_nil_iff]
    exact eq_comm
  | succ fuel ih =>
    cases bs with
    | nil =>
      rw [decodeFrom, Except.ok.injEq, encode_eq_nil_iff]
      · exact eq_comm
      · simp
    | cons b bs =>
      -- A character takes at least one of the bytes.
      have hrest {c : Char} {rest : List UInt8} (h : b :: bs = encodeChar c ++ rest) :
          rest.length ≤ fuel := by
        have hlength := congrArg List.length h
        have hpos := encodeChar_length_pos c
        rw [List.length_cons] at hfuel
        rw [List.length_cons, List.length_append] at hlength
        omega
      rw [decodeFrom]
      constructor
      · intro h
        obtain ⟨⟨c, next, rest⟩, hc, h⟩ := bind_eq_ok.1 h
        obtain ⟨cs', hcs', h⟩ := bind_eq_ok.1 h
        obtain rfl := Except.ok.inj h
        have heq := (decodeChar_eq_ok_iff position).1 ⟨next, hc⟩
        rw [encode, List.flatMap_cons, ← encode, heq, (ih (hrest heq)).1 hcs']
      · intro h
        cases cs with
        | nil => exact absurd h (by simp [encode])
        | cons c cs =>
          rw [encode, List.flatMap_cons, ← encode] at h
          obtain ⟨next, hc⟩ := (decodeChar_eq_ok_iff position).2 h.symm
          exact bind_eq_ok.2 ⟨_, hc, bind_eq_ok.2 ⟨_, (ih (hrest h.symm)).2 rfl, rfl⟩⟩

theorem decode_eq_ok_iff {bs : List UInt8} {cs : List Char} : decode bs = .ok cs ↔ encode cs = bs :=
  decodeFrom_eq_ok_iff (Nat.le_refl _)

theorem encode_injective {cs cs' : List Char} (h : encode cs = encode cs') : cs = cs' := by
  have hread := decode_eq_ok_iff.2 h
  rw [decode_eq_ok_iff.2 rfl] at hread
  exact (Except.ok.inj hread).symm

end ReleaseMatch.Text.Utf8
