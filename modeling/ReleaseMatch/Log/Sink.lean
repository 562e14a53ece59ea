import ReleaseMatch.Files.Tree
import ReleaseMatch.Log.Line
set_option autoImplicit false

/-!
# Sinks

Where the lines of the log go: to the standard error stream, or to a file. When a file would reach
its limit with the next line it is put aside, the older ones are moved up by one, and the file is
begun anew; with no older ones to keep it just goes on. A record that cannot be written is reported on
the standard error stream.
-/
namespace ReleaseMatch.Log

/-- `location` is where the file is and `path` how that is written. -/
structure FileTarget where
  location : Files.Location
  path : String
  maxBytes : Value
  backupCount : Value

inductive Target
  | file (target : FileTarget)
  | stderr

structure Sink where
  target : Target
  level : Level
  format : Format

/-- How a file is called that was put aside so many turns ago; no turns ago it is the file itself. -/
def numbered (name : String) : Nat → String
  | 0 => name
  | turn + 1 => name ++ "." ++ toString (turn + 1)

/-- The names that lead to that file, from those that lead to the file itself. -/
def asideNames (names : List String) (turn : Nat) : List String :=
  names.dropLast ++ [numbered (names.getLast?.getD "") turn]

/-- How many files are kept aside. A fraction is no number of files. -/
def keptAside? (backupCount : Value) : Option Nat :=
  match backupCount with
  | .int n => some n.toNat
  | .bool b => some (if b then 1 else 0)
  | .float x => if x == .nan || x.leInt 0 then some 0 else none
  | _ => none

inductive RotationFault
  | notWhole
  | directory (path : String)
  | tooLong (source target : String)
  deriving DecidableEq, Repr

namespace RotationFault

open Files (Errno Fault)

def message : RotationFault → String
  | .notWhole => "'float' object cannot be interpreted as an integer"
  | .directory path => (Fault.system .isDirectory path).message
  | .tooLong source target => (Fault.system .nameTooLong source).message ++ " -> " ++ Text.quoted target

def kind : RotationFault → String
  | .notWhole => "TypeError"
  | .directory _ => Errno.isDirectory.kind
  | .tooLong .. => Errno.nameTooLong.kind

end RotationFault

namespace FileTarget

def name (t : FileTarget) : String := t.location.getLast?.getD ""

def aside (t : FileTarget) (turn : Nat) : Files.Location := asideNames t.location turn

def asidePath (t : FileTarget) (turn : Nat) : String := numbered t.path turn

/-- Whether the system refuses the path of a file that was put aside, for its length. -/
def isTooLong (t : FileTarget) (turn : Nat) : Bool :=
  decide (Files.Tree.maxNameBytes < (numbered t.name turn).utf8ByteSize)
    || decide (Files.Tree.maxPathBytes < (t.asidePath turn).utf8ByteSize)

def entryAside? (t : FileTarget) (tree : Files.Tree) (turn : Nat) : Option Files.Entry :=
  if t.isTooLong turn then none else tree.entry? (t.aside turn)

/-- Whether the file reaches its limit at a size. -/
def isFull (t : FileTarget) (size : Nat) : Bool :=
  match t.maxBytes with
  | .int n => decide (0 < n) && decide (n ≤ size)
  | .bool b => b && decide (1 ≤ size)
  | .float x => !x.leInt 0 && x.leInt size
  | _ => false

/-- Puts what was put aside so many turns ago aside by one more, in place of the file that is there. A
directory stays in the way. -/
def moveUp (t : FileTarget) (tree : Files.Tree) (turn : Nat) : Except RotationFault Files.Tree :=
  let source := t.aside turn
  let target := t.aside (turn + 1)
  match t.entryAside? tree turn with
  | none => .ok tree
  | some _ =>
    if t.isTooLong (turn + 1) then .error (.tooLong (t.asidePath turn) (t.asidePath (turn + 1)))
    else
      match tree.entry? target with
      | some .dir => .error (.directory (t.asidePath (turn + 1)))
      | some (.file _) => .ok ((tree.remove target).rename source target)
      | none => .ok (tree.rename source target)

/-- Moves up the files of so many turns, the oldest first and the file itself at last. What is moved before
a fault stays moved. -/
def moveAll (t : FileTarget) (tree : Files.Tree) : Nat → Files.Tree × Option RotationFault
  | 0 => (tree, none)
  | turn + 1 =>
    match t.moveUp tree turn with
    | .ok tree => t.moveAll tree turn
    | .error f => (tree, some f)

/-- Puts the file aside and begins it anew, or goes on with it if no files are kept aside. -/
def rotate (t : FileTarget) (tree : Files.Tree) (kept : Nat) : Files.Tree × Option RotationFault :=
  if kept = 0 then (tree, none)
  else
    match t.moveAll tree kept with
    | (tree, none) => (tree.put t.location (.file []), none)
    | r => r

def append (t : FileTarget) (tree : Files.Tree) (line : String) : Files.Tree :=
  tree.put t.location (.file (tree.bytesAt t.location ++ Text.Utf8.encode line.toList))

/-- Writes a line. It is lost if the file cannot be put aside. -/
def write (t : FileTarget) (tree : Files.Tree) (line : String) : Files.Tree × Option RotationFault :=
  if t.isFull ((tree.bytesAt t.location).length + line.length) then
    match keptAside? t.backupCount with
    | none => (tree, some .notWhole)
    | some kept =>
      match t.rotate tree kept with
      | (tree, none) => (t.append tree line, none)
      | r => r
  else (t.append tree line, none)

end FileTarget

structure Surface where
  tree : Files.Tree
  stderr : String := ""

def Surface.print (out : Surface) (text : String) : Surface := { out with stderr := out.stderr ++ text }

/-- Writes a record, if its level is high enough. A record that makes no line, or one whose line is lost, is
reported on the standard error stream. -/
def Sink.emit (s : Sink) (level : Level) (r : Record) (out : Surface) : Surface :=
  if level.number < s.level.number then out
  else
    match r.line s.format with
    | .error f => out.print (r.report f.kind f.message)
    | .ok line =>
      match s.target with
      | .stderr => out.print (line ++ "\n")
      | .file t =>
        match t.write out.tree (line ++ "\n") with
        | (tree, none) => { out with tree }
        | (tree, some f) => { out with tree }.print (r.report f.kind f.message)

end ReleaseMatch.Log
