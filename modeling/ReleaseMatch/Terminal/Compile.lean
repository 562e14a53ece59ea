import ReleaseMatch.Document.File
import ReleaseMatch.Json.Text
import ReleaseMatch.Pattern.Sample
import ReleaseMatch.Settings.Builder
import ReleaseMatch.Terminal.Course
set_option autoImplicit false

/-!
# Compiling and testing

The two commands that compile a condition file: one shows the pattern, the other tries it on samples.
-/
namespace ReleaseMatch.Terminal

def compileLogger : String := loggerName ["cli", "compile"]

def loadSet (tree : Files.Tree) (builder : BuilderSettings) (file : Files.Path)
    (combinator : Option Combinator) : Except Course (List Event × Document.ConditionSet) :=
  match tree.holds file.text with
  | .error f => .error ⟨[], .broken f.kind f.message⟩
  | .ok false =>
    .error (.exit .targetNotFound [.complain ("Error: File not found: " ++ file.text)])
  | .ok true =>
    match builder.defaults with
    | .error u => .error ⟨[], .broken "ValueError" u.message⟩
    | .ok defaults =>
      let r := Document.loadFile tree file.text defaults
      let notes := r.notices.map Event.note
      match r.result with
      | .ok s => .ok (notes, { s with combinator := combinator.getD s.combinator })
      | .error f =>
        .error (Course.after notes (match f.otherKind with
          | some kind => ⟨[], .broken kind f.message⟩
          | none => .exit .validationError [.complain ("Error: " ++ f.message)]))

def withOutcome (tree : Files.Tree) (builder : BuilderSettings) (file : Files.Path)
    (combinator : Option Combinator) (go : Document.ConditionSet → Outcome → Course) : Course :=
  match loadSet tree builder file combinator with
  | .error c => c
  | .ok (notes, s) =>
    Course.after notes (match s.compile with
      | .error f => ⟨[], .broken "TypeError" f.message⟩
      | .ok o => go s o)

structure CompileOptions where
  file : Files.Path
  combinator : Option Combinator := none
  json : Bool := false

def compiledNote (s : Document.ConditionSet) (o : Outcome) : Event :=
  .note ⟨.debug, compileLogger, String.join ["Compiled ", toString s.conditions.length,
    " condition(s) with ", s.combinator.name, ": ", o.tag]⟩

def rejectedNote (pattern : String) (fault : Pattern.SyntaxFault) : Event :=
  .note ⟨.debug, compileLogger, "Regex engine rejected " ++ Text.quoted pattern ++ ": "
    ++ fault.message⟩

def recordWith (o : Outcome) (more : List (Value × Value)) : Value :=
  match o.record with
  | .map entries => .map (entries ++ more)
  | v => v

def showOutcome (json : Bool) (o : Outcome) : Course :=
  .exit (.ofOutcome o)
    [if json then .print (Json.renderBlock o.record)
      else if o = .empty then .complain o.report
      else .print o.report]

def showRejected (json : Bool) (pattern : String) (fault : Pattern.SyntaxFault) : Course :=
  .exit .invalidPattern
    (rejectedNote pattern fault ::
      if json then
        [.print (Json.renderBlock
          (recordWith (.compiled pattern) [(.text "error", .text fault.message)]))]
      else [.print pattern, .complain ("Error: Invalid regex pattern: " ++ fault.message)])

def compileCourse (tree : Files.Tree) (builder : BuilderSettings) (o : CompileOptions) : Course :=
  withOutcome tree builder o.file o.combinator fun s outcome =>
    Course.after [compiledNote s outcome] (match outcome with
      | .compiled pattern =>
        match Pattern.Regex.read pattern.toList with
        | .ok _ => showOutcome o.json outcome
        | .error (.malformed f) => showRejected o.json pattern f
        | .error r => ⟨[], .broken "ValueError" r.message⟩
      | _ => showOutcome o.json outcome)

/-- Where samples come from besides the command line. -/
inductive Input
  | standard
  | file (path : String)
  deriving DecidableEq, Repr

structure TestOptions where
  file : Files.Path
  combinator : Option Combinator := none
  texts : List String := []
  input : Option Input := none
  json : Bool := false

def samplesIn (cs : List Char) : List String :=
  (Text.lines (Text.unifyLines cs)).map String.ofList

def readInput (tree : Files.Tree) (stdin : String) : Input → Except Text.Utf8.Fault (List String)
  | .standard => .ok (samplesIn stdin.toList)
  | .file path =>
    match tree.read path with
    | .ok bytes => (Text.Utf8.decodeStream bytes).map samplesIn
    | .error _ => .ok []

def SampleResult.value (r : SampleResult) : Value :=
  .map [(.text "text", .text r.text), (.text "matched", .bool r.matched.isSome),
    (.text "match_text", (r.matched.map Value.text).getD .null)]

def testRecord (pattern : String) (results : List SampleResult) : Value :=
  .map [(.text "pattern", .text pattern),
    (.text "results", .list (results.map SampleResult.value))]

def showResults (json : Bool) (pattern : String) (results : List SampleResult) : Course :=
  let total := toString results.length
  let matched := toString (results.countP (·.matched.isSome))
  .exit .success
    (.note ⟨.debug, compileLogger, String.join ["Tested ", total, " sample(s): ", matched,
        " matched"]⟩ ::
      if json then [.print (Json.renderBlock (testRecord pattern results))]
      else
        .print ("Pattern: " ++ pattern) :: results.map (fun r => .print r.line)
          ++ [.print (matched ++ "/" ++ total ++ " matched")])

def testCourse (tree : Files.Tree) (builder : BuilderSettings) (o : TestOptions)
    (samples : List String) : Course :=
  withOutcome tree builder o.file o.combinator fun _ outcome =>
    match Tester.ofOutcome outcome with
    | .error (.refused r) => .exit (.ofOutcome outcome) [.complain ("Error: " ++ r.message)]
    | .error (.rejected pattern r) =>
      .exit .invalidPattern [.complain ("Error: " ++ r.report pattern)]
    | .ok tester => showResults o.json tester.pattern (tester.tryAll samples)

end ReleaseMatch.Terminal
