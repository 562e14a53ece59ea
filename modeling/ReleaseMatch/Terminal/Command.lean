import ReleaseMatch.Terminal.Layout
import ReleaseMatch.Text.Case
set_option autoImplicit false

/-!
# Commands

What can be typed: the options that come before the name of a command, and the commands with the
options and arguments of each.
-/
namespace ReleaseMatch.Terminal

inductive OptionKind
  | flag
  | text
  | path
  | choice (names : List String)
  | input
  deriving DecidableEq, Repr

/-- `hint` stands for the value of the option on help pages. -/
structure OptionSpec where
  name : String
  kind : OptionKind
  hint : String
  help : String
  deriving DecidableEq, Repr

def OptionSpec.term (o : OptionSpec) : String :=
  if o.hint = "" then o.name else o.name ++ " " ++ o.hint

structure ArgumentSpec where
  hint : String
  required : Bool
  deriving DecidableEq, Repr

structure CommandSpec where
  name : String
  paragraphs : List String
  options : List OptionSpec
  argument : Option ArgumentSpec
  deriving DecidableEq, Repr

def shownNames (names : List String) : List String := names.map Text.folded

def choiceOption (name : String) (names : List String) (help : String) : OptionSpec :=
  ⟨name, .choice names, "[" ++ "|".intercalate (shownNames names) ++ "]", help⟩

def helpOption : OptionSpec := ⟨"--help", .flag, "", "Show this message and exit."⟩

def versionOption : OptionSpec := ⟨"--version", .flag, "", "Show the version and exit."⟩

def jsonOption : OptionSpec := ⟨"--json", .flag, "", "Output as JSON."⟩

def combinatorOption : OptionSpec :=
  choiceOption "--combinator" ["AND", "OR"] "Override the document's combinator."

def programName : String := "rpb"

def version : String := "0.1.0"

/-- The program itself, with the options that all commands share. -/
def program : CommandSpec where
  name := programName
  paragraphs := ["Release Pattern Builder - turn match conditions into one regex."]
  options := [versionOption,
    ⟨"--config", .path, "PATH", "Config file (default: $RPB_CONFIG_PATH or ~/.rpb/config.toml)."⟩,
    choiceOption "--log-level" ["debug", "info", "warning", "error"]
      "Override log level (default: info).",
    ⟨"--log-file", .path, "PATH", "Override log file path."⟩,
    ⟨"--log-json", .flag, "", "Use JSON log format."⟩,
    helpOption]
  argument := none

def conditionFile : ArgumentSpec := ⟨"CONDITION_FILE", true⟩

def compileSpec : CommandSpec where
  name := "compile"
  paragraphs := ["Compile a condition-set document into a regex pattern.",
    "Exits 41 when an AND combination can only be shown as advisory text, "
      ++ "40 when no condition is filled in, and 42 when the regex engine rejects the pattern "
      ++ "(a malformed 'matches' value)."]
  options := [combinatorOption, jsonOption, helpOption]
  argument := some conditionFile

def testSpec : CommandSpec where
  name := "test"
  paragraphs := ["Compile a condition-set document and test it against release names."]
  options := [combinatorOption,
    ⟨"--text", .text, "TEXT", "Sample release name to test (repeatable)."⟩,
    ⟨"--input", .input, "FILENAME", "File with one release name per line ('-' for stdin)."⟩,
    jsonOption, helpOption]
  argument := some conditionFile

def operatorsSpec : CommandSpec where
  name := "operators"
  paragraphs := ["List the available condition operators."]
  options := [helpOption]
  argument := none

def fieldsSpec : CommandSpec where
  name := "fields"
  paragraphs := ["List release fields, or the preset values of FIELD_KEY."]
  options := [helpOption]
  argument := some ⟨"FIELD_KEY", false⟩

inductive Command
  | compile
  | fields
  | operators
  | test
  deriving DecidableEq, Repr

namespace Command

def all : List Command := [.compile, .fields, .operators, .test]

def spec : Command → CommandSpec
  | .compile => compileSpec
  | .fields => fieldsSpec
  | .operators => operatorsSpec
  | .test => testSpec

def name (c : Command) : String := c.spec.name

def ofName? (name : String) : Option Command := all.find? (·.name == name)

end Command

namespace CommandSpec

def option? (c : CommandSpec) (name : String) : Option OptionSpec := c.options.find? (·.name == name)

def path (c : CommandSpec) : String :=
  if c.name = programName then programName else programName ++ " " ++ c.name

def usage (c : CommandSpec) : String :=
  "Usage: " ++ c.path ++ " [OPTIONS]"
    ++ (if c.name = programName then " COMMAND [ARGS]..." else "")
    ++ (match c.argument with
        | some a => if a.required then " " ++ a.hint else " [" ++ a.hint ++ "]"
        | none => "")
    ++ "\n"

def commandRows : List (String × String) :=
  let longest := (Command.all.map (·.name.length)).foldl max 0
  Command.all.map fun c => (c.name, Layout.shortened (Layout.width - 6 - longest)
    (c.spec.paragraphs.head?.getD ""))

def helpPage (c : CommandSpec) : String :=
  c.usage
    ++ String.join (c.paragraphs.map fun p => "\n" ++ Layout.paragraph p)
    ++ Layout.glossary "Options" (c.options.map fun o => (o.term, o.help))
    ++ (if c.name = programName then Layout.glossary "Commands" commandRows else "")

end CommandSpec
end ReleaseMatch.Terminal
