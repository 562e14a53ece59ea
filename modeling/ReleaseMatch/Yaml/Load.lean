import ReleaseMatch.Yaml.Construct
set_option autoImplicit false

/-!
# Values from text

A text is looked through for characters that no document may hold, then read as a node, and the node
as a value. A text without a document stands for nothing.
-/
namespace ReleaseMatch.Yaml

def isAcceptable (c : Char) : Bool :=
  let n := c.toNat
  n == 9 || n == 10 || n == 13 || (0x20 ≤ n && n ≤ 0x7E) || n == 0x85
    || (0xA0 ≤ n && n ≤ 0xD7FF) || (0xE000 ≤ n && n ≤ 0xFFFD) || 0x10000 ≤ n

inductive LoadFault
  | unacceptable (c : Char) (position : Nat)
  | markup (fault : Fault) (text : List Char)
  | reading (fault : TextFault)
  deriving DecidableEq, Repr

def LoadFault.otherKind : LoadFault → Option String
  | .reading fault => some fault.kind
  | .markup fault _ =>
    match fault.problem with
    | .noCharacter code =>
      some (if isHalf code then "UnicodeEncodeError"
        else if Number.inWord32 code then "ValueError" else "OverflowError")
    | _ => none
  | .unacceptable .. => none

/-- The last digits of a number in base 16, at least four. -/
def hexCode (n : Nat) : String :=
  String.ofList (if n < 0x10000 then Text.hex 4 n else if n < 0x100000 then Text.hex 5 n
    else Text.hex 6 n)

def LoadFault.message : LoadFault → String
  | .unacceptable c position =>
    "unacceptable character #x" ++ hexCode c.toNat ++ ": special characters are not allowed\n  in \""
      ++ documentName ++ "\", position " ++ toString position
  | .markup fault text =>
    match fault.problem with
    | .noCharacter code => (Problem.noCharacter code).message
    | _ => fault.message text
  | .reading fault => fault.message

def load (text : List Char) : Except LoadFault Value :=
  match text.findIdx? (!isAcceptable ·) with
  | some i => .error (.unacceptable (text.getD i ' ') i)
  | none =>
    let markup (f : Fault) : LoadFault := .markup f text
    match Node.ofText? text with
    | .error f => .error (markup f)
    | .ok none => .ok .null
    | .ok (some n) =>
      (n.construct (text.length + 1)).mapError fun f =>
        match f with
        | .markup f => markup f
        | .text f => .reading f

end ReleaseMatch.Yaml
