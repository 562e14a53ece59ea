import ReleaseMatch.Terminal.Run
set_option autoImplicit false

/-!
# What a run may look at

The variables and the files that a run depends on. All that is typed may be a path; besides there
are the configuration file and the log.
-/
namespace ReleaseMatch.Terminal

def variableNames : List String :=
  ["RPB_CONFIG_PATH", "RPB_LOG_LEVEL", "RPB_LOG_FILE", "RPB_LOG_FORMAT", "RPB_DEFAULT_COMBINATOR",
    "RPB_DEFAULT_CASE_SENSITIVE"]

/-- The log file of a run and those put aside, if there are settings. -/
def logFiles (i : Invocation) : List Files.Path :=
  let settings := (readProgram i.tree i.args).toOption.bind fun s => (settingsOf i s).toOption
  match settings.bind fun s => s.log.file.map fun p => (i.env.expand p, s.log.backupCount) with
  | some (.ok path, count) =>
    path :: (List.range ((Log.keptAside? count).getD 0)).map fun turn =>
      { path with names := Log.asideNames path.names (turn + 1) }
  | _ => []

/-- An argument, and the value in it. -/
def argumentPaths (arg : String) : List Files.Path :=
  .ofText arg :: ((splitValue arg).2.map .ofText).toList

/-- The files that a run looks at, as far as that can be told from those already known. -/
def reach (i : Invocation) : List Files.Path :=
  (Settings.filePath i.env).toOption.toList ++ i.args.flatMap argumentPaths ++ logFiles i

/-- The locations of a path and of all on the way to it. -/
def waypoints (t : Files.Tree) (p : Files.Path) : List Files.Location :=
  let names := if p.isAbsolute then p.names else t.base ++ p.names
  ((List.range names.length).map fun n => Files.Path.foldDots (names.take (n + 1))).filter (· != [])

/-- Whether the standard input may be read. -/
def mayReadInput (args : List String) : Bool :=
  args.any fun arg => arg = "-" || (splitValue arg).2 = some "-"

end ReleaseMatch.Terminal
