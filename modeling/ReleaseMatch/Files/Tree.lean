import ReleaseMatch.Files.Path
import ReleaseMatch.Text.Utf8
set_option autoImplicit false

/-!
# Trees of files

Files and directories by their location, which is the list of names from the root. The tree has a
working directory, from which paths without a root count. The working directory and those above it
are always there.
-/
namespace ReleaseMatch.Files

inductive Entry
  | file (bytes : List UInt8)
  | dir
  deriving DecidableEq, Repr

abbrev Location := List String

/-- `base` is the working directory, and `baseText` how it is written. -/
structure Tree where
  base : Location
  baseText : String
  entries : List (Location × Entry)
  deriving Repr

inductive Errno
  | notFound
  | exists_
  | notDirectory
  | isDirectory
  | nameTooLong
  deriving DecidableEq, Repr

namespace Errno

def number : Errno → Nat
  | .notFound => 2
  | .exists_ => 17
  | .notDirectory => 20
  | .isDirectory => 21
  | .nameTooLong => 36

def text : Errno → String
  | .notFound => "No such file or directory"
  | .exists_ => "File exists"
  | .notDirectory => "Not a directory"
  | .isDirectory => "Is a directory"
  | .nameTooLong => "File name too long"

def kind : Errno → String
  | .notFound => "FileNotFoundError"
  | .exists_ => "FileExistsError"
  | .notDirectory => "NotADirectoryError"
  | .isDirectory => "IsADirectoryError"
  | .nameTooLong => "OSError"

end Errno

/-- What goes wrong with a path: an error of the system, or a null character in it. -/
inductive Fault
  | system (errno : Errno) (path : String)
  | nullCharacter
  deriving DecidableEq, Repr

def Fault.message : Fault → String
  | .system errno path =>
    "[Errno " ++ toString errno.number ++ "] " ++ errno.text ++ ": " ++ Text.quoted path
  | .nullCharacter => "embedded null byte"

def Fault.kind : Fault → String
  | .system errno _ => errno.kind
  | .nullCharacter => "ValueError"

namespace Tree

def entry? (t : Tree) (l : Location) : Option Entry :=
  if l.isPrefixOf t.base then some .dir else t.entries.lookup l

def stepTo (l : Location) (name : String) : Location :=
  if name = ".." then l.dropLast else l ++ [name]

def maxNameBytes : Nat := 255

def maxPathBytes : Nat := 4095

/-- Goes down from a directory, along names of which all but the last have to be directories. -/
def walk (t : Tree) (l : Location) : List String → Except Errno Location
  | [] => .ok l
  | name :: rest =>
    if maxNameBytes < name.utf8ByteSize then .error .nameTooLong
    else
      let next := stepTo l name
      match rest with
      | [] => .ok next
      | _ :: _ =>
        match t.entry? next with
        | some .dir => walk t next rest
        | some (.file _) => .error .notDirectory
        | none => .error .notFound

/-- Where a path leads. With a slash at its end it has to lead to a directory. -/
def locate (t : Tree) (path : String) : Except Errno Location :=
  let cs := path.toList
  if path = "" then .error .notFound
  else if maxPathBytes < path.utf8ByteSize then .error .nameTooLong
  else
    match t.walk (if cs.head? == some '/' then [] else t.base) (splitNames cs) with
    | .error e => .error e
    | .ok l =>
      match t.entry? l with
      | some (.file _) => if cs.getLast? == some '/' then .error .notDirectory else .ok l
      | _ => .ok l

/-- A step on a path, with its errors put together with the path. -/
def onPath {α : Type} (path : String) (r : Except Errno α) : Except Fault α :=
  if path.toList.contains '\x00' then .error .nullCharacter
  else r.mapError fun e => .system e path

def find (t : Tree) (path : String) : Except Fault Entry :=
  onPath path do
    match t.entry? (← t.locate path) with
    | some e => return e
    | none => throw .notFound

def isDir (t : Tree) (path : String) : Bool :=
  t.find path matches .ok .dir

/-- Whether there is something at a path. A name that is too long is an error even so. -/
def holds (t : Tree) (path : String) : Except Fault Bool :=
  match t.find path with
  | .ok _ => .ok true
  | .error (.system .nameTooLong p) => .error (.system .nameTooLong p)
  | .error _ => .ok false

def read (t : Tree) (path : String) : Except Fault (List UInt8) :=
  onPath path do
    match t.entry? (← t.locate path) with
    | some (.file bytes) => return bytes
    | some .dir => throw .isDirectory
    | none => throw .notFound

def put (t : Tree) (l : Location) (e : Entry) : Tree :=
  if t.entries.any (·.1 = l) then
    { t with entries := t.entries.map fun row => if row.1 = l then (l, e) else row }
  else { t with entries := t.entries ++ [(l, e)] }

def remove (t : Tree) (l : Location) : Tree :=
  { t with entries := t.entries.filter (·.1 != l) }

/-- Where a location is after another one has moved with all that is inside of it. -/
def moved (source target l : Location) : Location :=
  if source.isPrefixOf l then target ++ l.drop source.length else l

/-- Moves what is at a location, with all that is inside of it; that may be the working directory. -/
def rename (t : Tree) (source target : Location) : Tree where
  base := moved source target t.base
  baseText :=
    if source.isPrefixOf t.base then "/" ++ "/".intercalate (moved source target t.base)
    else t.baseText
  entries := t.entries.map fun row => (moved source target row.1, row.2)

/-- Opens a file to write at its end; it is made if there is none. The names lead to it from the
root, and `shown` is how its path is written. -/
def openEnd (t : Tree) (names : List String) (shown : String) : Except Fault (Location × Tree) :=
  onPath shown do
    if maxPathBytes < shown.utf8ByteSize then throw .nameTooLong
    let l ← t.walk [] names
    match t.entry? l with
    | some (.file _) => return (l, t)
    | some .dir => throw .isDirectory
    | none => return (l, t.put l (.file []))

def makeDir (t : Tree) (path : String) : Except Fault Tree :=
  onPath path do
    let l ← t.locate path
    match t.entry? l with
    | some _ => throw .exists_
    | none => return t.put l .dir

/-- Makes a directory, and those above it where they are missing. `fuel` is the number of names in
the path. What is made on the way to a fault stays. -/
def makeDirs (t : Tree) : Nat → Path → Tree × Option Fault
  | fuel, p =>
    match t.makeDir p.text with
    | .ok t => (t, none)
    | .error (.system .notFound path) =>
      match fuel with
      | 0 => (t, some (.system .notFound path))
      | fuel + 1 =>
        match makeDirs t fuel p.parent with
        | (t, none) =>
          match t.makeDir p.text with
          | .ok t => (t, none)
          | .error f => if t.isDir p.text then (t, none) else (t, some f)
        | r => r
    | .error f => if t.isDir p.text then (t, none) else (t, some f)

/-- The names from the root to a path, with the dots in it taken back. -/
def absoluteNames (t : Tree) (p : Path) : List String :=
  Path.foldDots (if p.isAbsolute then p.names else t.base ++ p.names)

def absoluteText (t : Tree) (p : Path) : String :=
  let names := t.absoluteNames p
  if p.isAbsolute then p.root ++ "/".intercalate names
  else if t.base.isPrefixOf names then
    "/".intercalate (t.baseText :: names.drop t.base.length)
  else "/" ++ "/".intercalate names

def bytesAt (t : Tree) (l : Location) : List UInt8 :=
  match t.entry? l with
  | some (.file bytes) => bytes
  | _ => []

end Tree
end ReleaseMatch.Files
