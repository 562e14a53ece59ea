import ReleaseMatch.Terminal.Reach
import Std.Time.DateTime.Timestamp
set_option autoImplicit false

/-!
# The command line

Brings what a run depends on into memory, runs it there, and brings what has changed back: the text
of both streams, and the files.
-/
namespace ReleaseMatch.Terminal

def directoryCode : UInt32 := 21

def entryOnDisk (path : String) : IO (Option Files.Entry) := do
  match ← (IO.FS.readBinFile path).toBaseIO with
  | .ok bytes => return some (.file bytes.toList)
  | .error (.inappropriateType _ code _) =>
    return if code = directoryCode then some .dir else none
  | .error _ => return none

def pathOnDisk (l : Files.Location) : String := "/" ++ "/".intercalate l

/-- The tree with what is on the disk at a location, and on the way to it. -/
def fetch (t : Files.Tree) (p : Files.Path) : IO Files.Tree :=
  (waypoints t p).foldlM (fun (t : Files.Tree) l => do
    match t.entry? l with
    | some _ => return t
    | none =>
      match ← entryOnDisk (pathOnDisk l) with
      | some e => return t.put l e
      | none => return t) t

/-- A run with all files that it looks at. The log file is known only from the others. -/
def fetchAll (i : Invocation) : IO Invocation := do
  let i := { i with tree := ← (reach i).foldlM fetch i.tree }
  return { i with tree := ← (reach i).foldlM fetch i.tree }

/-- The names of the users with their home directories, from a table with a line for each of them. -/
def fetchUsers : IO (List (String × String)) := do
  match ← (IO.FS.readFile "/etc/passwd").toBaseIO with
  | .error _ => return []
  | .ok table =>
    return (table.splitOn "\n").filterMap fun line =>
      match line.splitOn ":" with
      | name :: _ :: _ :: _ :: _ :: home :: _ => some (name, home)
      | _ => none

def fetchEnvironment : IO Environment := do
  let assigned ← variableNames.filterMapM fun name => do
    return (← IO.getEnv name).map fun s => (name, s)
  return { assigned, home := { own := (← IO.getEnv "HOME").getD "/", users := ← fetchUsers } }

def fetchTree : IO Files.Tree := do
  let here := (← IO.currentDir).toString
  return ⟨Files.splitNames here.toList, here, []⟩

def fetchTime : IO Value := do
  let elapsed := (← Std.Time.Timestamp.now).toNanosecondsSinceUnixEpoch
  return .float (.ofRatio false elapsed.val.toNat 1000000000)

def store (l : Files.Location) : Files.Entry → IO Unit
  | .dir => IO.FS.createDirAll (pathOnDisk l)
  | .file bytes => do
    IO.FS.createDirAll (pathOnDisk l.dropLast)
    IO.FS.writeBinFile (pathOnDisk l) ⟨bytes.toArray⟩

def storeAll (before after : Files.Tree) : IO Unit := do
  for (l, e) in after.entries do
    if before.entry? l != some e then store l e
  for (l, _) in before.entries do
    if (after.entry? l).isNone then IO.FS.removeFile (pathOnDisk l)

end ReleaseMatch.Terminal

open ReleaseMatch ReleaseMatch.Terminal in
def main (args : List String) : IO UInt32 := do
  let stdin ← if mayReadInput args then (← IO.getStdin).readToEnd else pure ""
  let i ← fetchAll ⟨args, ← fetchEnvironment, ← fetchTree, stdin, ← fetchTime⟩
  let report := run i
  storeAll i.tree report.screen.surface.tree
  (← IO.getStdout).putStr report.screen.stdout
  (← IO.getStderr).putStr report.screen.surface.stderr
  if let .broken kind message := report.ending then
    (← IO.getStderr).putStrLn (kind ++ ": " ++ message)
  return report.ending.code.toUInt32
