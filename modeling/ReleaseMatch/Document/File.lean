import ReleaseMatch.Document.Load
import ReleaseMatch.Files.Tree
import ReleaseMatch.Text.Lines
import ReleaseMatch.Yaml.Load
set_option autoImplicit false

/-!
# Condition files

A condition set is read from a file of UTF-8 that holds a document. What can go wrong with it is
told as a refusal of the condition set; a few faults come through as they are.
-/
namespace ReleaseMatch.Document

inductive FileFault
  | notFound (path : String)
  | unreadable (path : String) (fault : Files.Fault)
  | notMarkup (path : String) (fault : Yaml.LoadFault)
  | refused (refusal : Refusal)
  | nullCharacter
  | undecodable (fault : Text.Utf8.Fault)
  | misread (fault : Yaml.LoadFault)
  deriving DecidableEq, Repr

namespace FileFault

def message : FileFault → String
  | .notFound path => "File not found: " ++ path
  | .unreadable path fault => "Cannot read " ++ path ++ ": " ++ fault.message
  | .notMarkup path fault => "Invalid YAML in " ++ path ++ ": " ++ fault.message
  | .refused refusal => refusal.message
  | .nullCharacter => Files.Fault.nullCharacter.message
  | .undecodable fault => fault.message
  | .misread fault => fault.message

def field : FileFault → Option String
  | .refused refusal => refusal.field
  | _ => none

/-- The kind of a fault that is not told as a refusal. -/
def otherKind : FileFault → Option String
  | .nullCharacter => some Files.Fault.nullCharacter.kind
  | .undecodable _ => some "UnicodeDecodeError"
  | .misread fault => some (fault.otherKind.getD "ValueError")
  | _ => none

end FileFault

def readFile (tree : Files.Tree) (path : String) : Except FileFault (List Char) :=
  match tree.read path with
  | .ok bytes =>
    match Text.Utf8.decode bytes with
    | .ok cs => .ok (Text.unifyLines cs)
    | .error f => .error (.undecodable f)
  | .error (.system .notFound _) => .error (.notFound path)
  | .error .nullCharacter => .error .nullCharacter
  | .error f => .error (.unreadable path f)

/-- The value in a file. An empty document is an empty mapping. -/
def readData (tree : Files.Tree) (path : String) : Except FileFault Value := do
  match Yaml.load (← readFile tree path) with
  | .ok .null => return .map []
  | .ok v => return v
  | .error f => throw (if f.otherKind.isSome then .misread f else .notMarkup path f)

def loadFile (tree : Files.Tree) (path : String) (defaults : Defaults) :
    Noted (Except FileFault ConditionSet) :=
  match readData tree path with
  | .error f => ⟨[], .error f⟩
  | .ok data =>
    let r := load data defaults
    ⟨r.notices, r.result.mapError .refused⟩

end ReleaseMatch.Document
