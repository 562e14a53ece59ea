import ReleaseMatch.Text.Quoted
set_option autoImplicit false

/-!
# UTF-8

Characters as one to four bytes. Reading refuses what writing does not produce: bytes that start
nothing, characters that break off, longer forms than needed, and surrogates.
-/
namespace ReleaseMatch.Text.Utf8

def encodeChar (c : Char) : List UInt8 :=
  let n := c.toNat
  let tail (unit : Nat) : UInt8 := (0x80 + n / unit % 64).toUInt8
  if n < 0x80 then [n.toUInt8]
  else if n < 0x800 then [(0xC0 + n / 64).toUInt8, tail 1]
  else if n < 0x10000 then [(0xE0 + n / 4096).toUInt8, tail 64, tail 1]
  else [(0xF0 + n / 262144).toUInt8, tail 4096, tail 64, tail 1]

def encode (cs : List Char) : List UInt8 :=
  cs.flatMap encodeChar

inductive Reason
  | invalidStart
  | invalidContinuation
  | unexpectedEnd
  deriving DecidableEq, Repr

/-- The bytes that make no character: the first of them with its place, and how many there are. -/
structure Fault where
  reason : Reason
  first : UInt8
  position : Nat
  count : Nat
  deriving DecidableEq, Repr

def Reason.message : Reason → String
  | .invalidStart => "invalid start byte"
  | .invalidContinuation => "invalid continuation byte"
  | .unexpectedEnd => "unexpected end of data"

def Fault.message (f : Fault) : String :=
  let bytes :=
    if f.count = 1 then
      "byte 0x" ++ String.ofList (hex 2 f.first.toNat) ++ " in position " ++ toString f.position
    else
      "bytes in position " ++ toString f.position ++ "-"
        ++ toString (f.position + f.count - 1)
  "'utf-8' codec can't decode " ++ bytes ++ ": " ++ f.reason.message

/-- How many bytes follow a first one, with the bounds of the second. -/
def shape? (first : UInt8) : Option (Nat × Nat × Nat) :=
  let n := first.toNat
  if n < 0x80 then some (0, 0, 0)
  else if n < 0xC2 then none
  else if n < 0xE0 then some (1, 0x80, 0xBF)
  else if n = 0xE0 then some (2, 0xA0, 0xBF)
  else if n = 0xED then some (2, 0x80, 0x9F)
  else if n < 0xF0 then some (2, 0x80, 0xBF)
  else if n = 0xF0 then some (3, 0x90, 0xBF)
  else if n < 0xF4 then some (3, 0x80, 0xBF)
  else if n = 0xF4 then some (3, 0x80, 0x8F)
  else none

/-- The bits of the bytes that go on with a character, or why they do not and how many do. -/
def continued : Nat → Nat → Nat → Nat → List UInt8 → Except (Reason × Nat) (Nat × List UInt8)
  | 0, _, _, n, bs => .ok (n, bs)
  | _ + 1, _, _, _, [] => .error (.unexpectedEnd, 1)
  | more + 1, low, high, n, b :: bs =>
    if low ≤ b.toNat && b.toNat ≤ high then
      match continued more 0x80 0xBF (n * 64 + b.toNat % 64) bs with
      | .ok r => .ok r
      | .error (reason, count) => .error (reason, count + 1)
    else .error (.invalidContinuation, 1)

def leadBits (first : UInt8) (more : Nat) : Nat :=
  match more with
  | 0 => first.toNat
  | 1 => first.toNat % 32
  | 2 => first.toNat % 16
  | _ => first.toNat % 8

def decodeChar (position : Nat) (b : UInt8) (bs : List UInt8) :
    Except Fault (Char × Nat × List UInt8) :=
  match shape? b with
  | none => .error ⟨.invalidStart, b, position, 1⟩
  | some (more, low, high) =>
    match continued more low high (leadBits b more) bs with
    | .ok (n, rest) => .ok (Char.ofNat n, position + 1 + more, rest)
    | .error (reason, count) => .error ⟨reason, b, position, count⟩

/-- Reads characters. Each takes at least one byte, so that the count of bytes bounds the steps. -/
def decodeFrom : Nat → Nat → List UInt8 → Except Fault (List Char)
  | 0, _, _ => .ok []
  | _, _, [] => .ok []
  | fuel + 1, position, b :: bs => do
    let (c, position, rest) ← decodeChar position b bs
    let cs ← decodeFrom fuel position rest
    return c :: cs

def decode (bs : List UInt8) : Except Fault (List Char) :=
  decodeFrom bs.length 0 bs

/-- Reads characters up to one that breaks off, which is held back. -/
def decodeSome : Nat → Nat → List UInt8 → Except Fault (List Char × List UInt8)
  | 0, _, bs => .ok ([], bs)
  | _, _, [] => .ok ([], [])
  | fuel + 1, position, b :: bs =>
    match decodeChar position b bs with
    | .error f => if f.reason = .unexpectedEnd then .ok ([], b :: bs) else .error f
    | .ok (c, position, rest) => do
      let (cs, held) ← decodeSome fuel position rest
      return (c :: cs, held)

/-- Reads piece by piece, where positions count from the start of a piece with the bytes held back
before it. -/
def decodePieces (size : Nat) : Nat → List UInt8 → List UInt8 → Except Fault (List Char)
  | 0, held, _ => decode held
  | fuel + 1, held, bs =>
    if bs.isEmpty then decode held
    else do
      let piece := held ++ bs.take size
      let (cs, held) ← decodeSome piece.length 0 piece
      return cs ++ (← decodePieces size fuel held (bs.drop size))

/-- The size of the pieces in which a stream is read. -/
def pieceSize : Nat := 8192

def decodeStream (bs : List UInt8) : Except Fault (List Char) :=
  decodePieces pieceSize bs.length [] bs

end ReleaseMatch.Text.Utf8
