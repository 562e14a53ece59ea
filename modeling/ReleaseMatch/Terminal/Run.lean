import ReleaseMatch.Log.Journal
import ReleaseMatch.Settings.Load
import ReleaseMatch.Terminal.Arguments
import ReleaseMatch.Terminal.Compile
import ReleaseMatch.Terminal.Listing
set_option autoImplicit false

/-!
# Running the program

A run reads the options of the program and finds the command; then it loads the settings and sets up
the log; only then does it read the options of the command and carry it out.
-/
namespace ReleaseMatch.Terminal

structure Invocation where
  args : List String
  env : Environment
  tree : Files.Tree
  stdin : String
  now : Value

/-- What can be seen of a run. -/
structure Screen where
  stdout : String := ""
  surface : Log.Surface

structure Report where
  screen : Screen
  ending : Ending

namespace Screen

def print (s : Screen) (text : String) : Screen := { s with stdout := s.stdout ++ text }

def complain (s : Screen) (text : String) : Screen :=
  { s with surface := { s.surface with stderr := s.surface.stderr ++ text } }

def play (now : Value) (journal : Log.Journal) (s : Screen) : Event → Screen
  | .print line => s.print (line ++ "\n")
  | .complain line => s.complain (line ++ "\n")
  | .note n => { s with surface := journal.note now n s.surface }

def playAll (now : Value) (journal : Log.Journal) (s : Screen) (c : Course) : Report :=
  ⟨c.events.foldl (play now journal) s, c.ending⟩

def halt (s : Screen) (c : CommandSpec) : Halt → Report
  | .help => ⟨s.print c.helpPage, .exit 0⟩
  | .version => ⟨s.print (programName ++ ", version " ++ version ++ "\n"), .exit 0⟩
  | .usage f => ⟨s.complain (f.report c), .exit usageCode⟩
  | .broken f => ⟨s, .broken f.kind f.message⟩

end Screen

def logOverride (s : Scan) : LogOverride where
  level := ((s.value? "--log-level").bind (chosen? LogSettings.levels)).map .text
  file := s.path? "--log-file"
  format := if s.has "--log-json" then some (.text "json") else none

inductive SetupFault
  | settings (fault : Settings.Fault)
  | log (fault : Log.SetupFault)
  deriving DecidableEq, Repr

namespace SetupFault

def message : SetupFault → String
  | .settings fault => fault.message
  | .log fault => fault.message

def kind : SetupFault → String
  | .settings fault => fault.kind
  | .log fault => fault.kind

/-- Whether the fault is one of values, which is told as an invalid configuration. -/
def isInvalidValue (f : SetupFault) : Bool :=
  f.kind == "ValueError" || f.kind == "UnicodeDecodeError"

def course (f : SetupFault) : Course :=
  if f.isInvalidValue then
    .exit .configError [.complain ("Error: invalid configuration: " ++ f.message)]
  else ⟨[], .broken f.kind f.message⟩

end SetupFault

/-- The settings, those of the command line in front. Whatever loading them brings up comes before
there is a log. -/
def settingsOf (i : Invocation) (s : Scan) : Except Settings.Fault Settings := do
  let settings ← (Settings.load i.tree i.env (s.path? "--config")).result
  let log ← (settings.log.override (logOverride s)).mapError .setting
  return { settings with log }

def setUp (i : Invocation) (s : Scan) (surface : Log.Surface) :
    Log.Journal × Log.Surface × Except SetupFault Settings :=
  let journal : Log.Journal := {}
  match settingsOf i s with
  | .error f => (journal, surface, .error (.settings f))
  | .ok settings =>
    match journal.configure settings.log i.env i.now surface with
    | (journal, surface, some f) => (journal, surface, .error (.log f))
    | (journal, surface, none) => (journal, surface, .ok settings)

def defaultsNote (b : BuilderSettings) : Event :=
  .note ⟨.debug, loggerName ["cli"], String.join ["Builder defaults: combinator=",
    b.combinator.name, ", case_sensitive=", b.caseSensitive.shown]⟩

def combinatorOf (s : Scan) : Option Combinator :=
  ((s.value? "--combinator").bind (chosen? ["AND", "OR"])).bind Combinator.ofName?

def fileOf (s : Scan) : Files.Path := .ofText (s.rest.head?.getD "")

def compileOptions (s : Scan) : CompileOptions :=
  ⟨fileOf s, combinatorOf s, s.has "--json"⟩

def inputOf (path : String) : Input := if path = "-" then .standard else .file path

def testOptions (s : Scan) : TestOptions :=
  ⟨fileOf s, combinatorOf s, s.values "--text", (s.value? "--input").map inputOf, s.has "--json"⟩

/-- All samples of a test: those typed, then those of the input. -/
def samplesOf (tree : Files.Tree) (stdin : String) (o : TestOptions) :
    Except Text.Utf8.Fault (List String) :=
  match o.input with
  | none => .ok o.texts
  | some input => (readInput tree stdin input).map (o.texts ++ ·)

/-- Tests a pattern on samples, of which there has to be one. -/
def carryOutTest (tree : Files.Tree) (stdin : String) (builder : BuilderSettings)
    (o : TestOptions) : Except Halt Course :=
  match samplesOf tree stdin o with
  | .error f => .ok ⟨[], .broken "UnicodeDecodeError" f.message⟩
  | .ok samples =>
    if samples.isEmpty then .error (.usage .noSamples)
    else .ok (testCourse tree builder o samples)

def carryOut (tree : Files.Tree) (stdin : String) (builder : BuilderSettings) (c : Command)
    (s : Scan) : Except Halt Course :=
  match c with
  | .compile => .ok (compileCourse tree builder (compileOptions s))
  | .fields => .ok (fieldsCourse s.rest.head?)
  | .operators => .ok operatorsCourse
  | .test => carryOutTest tree stdin builder (testOptions s)

def runCommand (i : Invocation) (builder : BuilderSettings) (journal : Log.Journal) (c : Command)
    (args : List String) (screen : Screen) : Report :=
  let tree := screen.surface.tree
  match (readCommand tree c args).bind (carryOut tree i.stdin builder c) with
  | .error h => screen.halt c.spec h
  | .ok course => screen.playAll i.now journal course

def runSetUp (i : Invocation) (s : Scan) (c : Command) (args : List String) (screen : Screen) :
    Report :=
  match setUp i s screen.surface with
  | (journal, surface, .error f) => { screen with surface }.playAll i.now journal f.course
  | (journal, surface, .ok settings) =>
    let screen := { screen with surface }.play i.now journal (defaultsNote settings.builder)
    runCommand i settings.builder journal c args screen

def run (i : Invocation) : Report :=
  let screen : Screen := { surface := { tree := i.tree } }
  if i.args.isEmpty then ⟨screen.complain program.helpPage, .exit usageCode⟩
  else
    match readProgram i.tree i.args with
    | .error h => screen.halt program h
    | .ok s =>
      match resolve i.tree s.rest with
      | .error h => screen.halt program h
      | .ok (c, args) => runSetUp i s c args screen

end ReleaseMatch.Terminal
