import ReleaseMatch.Condition.Operator
import ReleaseMatch.Files.Tree
import ReleaseMatch.Terminal.Command
import ReleaseMatch.Text.Similar
set_option autoImplicit false

/-!
# Reading the command line

Options are looked for first; what is left are arguments. Of an option that is given more than once
the last value counts. The values are looked at in the order in which their options come up, the
request for help or for the version before all others.
-/
namespace ReleaseMatch.Terminal

inductive UsageFault
  | noOption (name : String) (similar : List String)
  | needsValue (name : String)
  | takesNoValue (name : String)
  | noCommand (name : String) (similar : List String)
  | missingCommand
  | missingArgument (hint : String)
  | extraArguments (args : List String)
  | notAChoice (option value : String) (names : List String)
  | unreadable (option path reason : String)
  | noSamples
  deriving DecidableEq, Repr

namespace UsageFault

def suggestion : List String → String
  | [] => ""
  | [name] => " Did you mean " ++ Text.quoted name ++ "?"
  | names =>
    " (Possible options: "
      ++ ", ".intercalate ((names.mergeSort fun a b => !decide (b < a)).map Text.quoted) ++ ")"

def message : UsageFault → String
  | .noOption name similar =>
    "No such option " ++ Text.quoted name ++ "." ++ suggestion similar
  | .needsValue name => "Option " ++ Text.quoted name ++ " requires an argument."
  | .takesNoValue name => "Option " ++ Text.quoted name ++ " does not take a value."
  | .noCommand name similar =>
    "No such command " ++ Text.quoted name ++ "." ++ suggestion similar
  | .missingCommand => "Missing command."
  | .missingArgument hint => "Missing argument '" ++ hint ++ "'."
  | .extraArguments args =>
    "Got unexpected extra argument" ++ (if args.length = 1 then "" else "s")
      ++ " (" ++ " ".intercalate args ++ ")"
  | .notAChoice option value names =>
    String.join ["Invalid value for '", option, "': ", Text.quoted value, " is not one of ",
      ", ".intercalate ((shownNames names).map Text.quoted), "."]
  | .unreadable option path reason =>
    String.join ["Invalid value for '", option, "': '", path, "': ", reason]
  | .noSamples => "Provide at least one --text or an --input file."

/-- Whether the usage of the command is shown with the message. -/
def showsUsage : UsageFault → Bool
  | .needsValue _ => false
  | .takesNoValue _ => false
  | _ => true

def report (c : CommandSpec) (f : UsageFault) : String :=
  (if f.showsUsage then c.usage ++ "Try '" ++ c.path ++ " --help' for help.\n\n" else "")
    ++ "Error: " ++ f.message ++ "\n"

end UsageFault

inductive Halt
  | help
  | version
  | usage (fault : UsageFault)
  | broken (fault : Files.Fault)
  deriving DecidableEq, Repr

/-- Options with their values in the order in which they are typed, and what is left. -/
structure Scan where
  options : List (String × String)
  rest : List String
  deriving DecidableEq, Repr

def Scan.addOption (name value : String) (s : Scan) : Scan :=
  { s with options := (name, value) :: s.options }

def Scan.addRest (arg : String) (s : Scan) : Scan := { s with rest := arg :: s.rest }

/-- Whether an argument is an option. A single dash is none. -/
def looksLikeOption (arg : String) : Bool :=
  match arg.toList with
  | '-' :: _ :: _ => true
  | _ => false

def splitValue (arg : String) : String × Option String :=
  let cs := arg.toList
  match cs.dropWhile (· != '=') with
  | [] => (arg, none)
  | _ :: value => (String.ofList (cs.takeWhile (· != '=')), some (String.ofList value))

/-- An option that does not exist. After a single dash only its first letter counts. -/
def unknownOption (c : CommandSpec) (arg name : String) : UsageFault :=
  match arg.toList with
  | '-' :: '-' :: _ => .noOption name (Text.similarTo name (c.options.map (·.name)))
  | cs => .noOption (String.ofList (cs.take 2)) []

/-- Scans a command line. With `interspersed` options may stand after arguments too. -/
def scan (c : CommandSpec) (interspersed : Bool) : List String → Except UsageFault Scan
  | [] => .ok ⟨[], []⟩
  | arg :: rest =>
    if arg = "--" then .ok ⟨[], rest⟩
    else if looksLikeOption arg then
      let (name, attached) := splitValue arg
      match c.option? name with
      | none => .error (unknownOption c arg name)
      | some o =>
        match o.kind, attached with
        | .flag, some _ => .error (.takesNoValue name)
        | .flag, none => (scan c interspersed rest).map (Scan.addOption name "")
        | _, some value => (scan c interspersed rest).map (Scan.addOption name value)
        | _, none =>
          match rest with
          | [] => .error (.needsValue name)
          | value :: rest => (scan c interspersed rest).map (Scan.addOption name value)
    else if interspersed then (scan c interspersed rest).map (Scan.addRest arg)
    else .ok ⟨[], arg :: rest⟩

namespace Scan

def has (s : Scan) (name : String) : Bool := s.options.any (·.1 == name)

def values (s : Scan) (name : String) : List String :=
  (s.options.filter (·.1 == name)).map (·.2)

def value? (s : Scan) (name : String) : Option String := (s.values name).getLast?

def names (s : Scan) : List String := (s.options.map (·.1)).eraseDups

def path? (s : Scan) (name : String) : Option Files.Path := (s.value? name).map .ofText

end Scan

/-- A path with a null character cannot be looked for. -/
def checkPath (path : String) : Except Halt Unit :=
  if path.toList.contains '\x00' then .error (.broken .nullCharacter) else .ok ()

def chosen? (names : List String) (value : String) : Option String :=
  names.find? fun name => Text.folded name == Text.folded value

/-- Whether an input can be read; a dash stands for the standard input. -/
def checkInput (tree : Files.Tree) (option path : String) : Except Halt Unit :=
  if path = "-" then .ok ()
  else
    match tree.read path with
    | .ok _ => .ok ()
    | .error (.system errno _) => .error (.usage (.unreadable option path errno.text))
    | .error f => .error (.broken f)

def checkValue (tree : Files.Tree) (o : OptionSpec) (value : String) : Except Halt Unit :=
  match o.kind with
  | .flag => .ok ()
  | .text => .ok ()
  | .path => checkPath value
  | .choice names =>
    match chosen? names value with
    | some _ => .ok ()
    | none => .error (.usage (.notAChoice o.name value names))
  | .input => checkInput tree o.name value

/-- The first request for help or for the version. -/
def request? (s : Scan) : Option Halt :=
  s.names.findSome? fun name =>
    if name = helpOption.name then some .help
    else if name = versionOption.name then some .version
    else none

def checkValues (tree : Files.Tree) (c : CommandSpec) (s : Scan) : Except Halt Unit := do
  if let some halt := request? s then throw halt
  s.names.forM fun name =>
    match c.option? name, s.value? name with
    | some o, some value => checkValue tree o value
    | _, _ => .ok ()

/-- Looks at the arguments of a command, of which there is one at most. -/
def checkArguments (c : CommandSpec) (rest : List String) : Except Halt Unit :=
  match c.argument, rest with
  | none, [] => .ok ()
  | none, extra => .error (.usage (.extraArguments extra))
  | some a, [] => if a.required then .error (.usage (.missingArgument a.hint)) else .ok ()
  | some a, arg :: extra => do
    if a.required then checkPath arg
    if !extra.isEmpty then throw (.usage (.extraArguments extra))

def readProgram (tree : Files.Tree) (args : List String) : Except Halt Scan := do
  let s ← (scan program false args).mapError .usage
  checkValues tree program s
  return s

def readCommand (tree : Files.Tree) (c : Command) (args : List String) : Except Halt Scan := do
  let s ← (scan c.spec true args).mapError .usage
  checkValues tree c.spec s
  checkArguments c.spec s.rest
  return s

/-- The command that is named, and its arguments. What is no command but looks like an option is read
once more as one of the program. -/
def resolve (tree : Files.Tree) (rest : List String) : Except Halt (Command × List String) :=
  match rest with
  | [] => .error (.usage .missingCommand)
  | name :: args =>
    match Command.ofName? name with
    | some c => .ok (c, args)
    | none => do
      if looksLikeOption name then
        let _ ← readProgram tree rest
      throw (.usage (.noCommand name (Text.similarTo name (Command.all.map (·.name)))))

end ReleaseMatch.Terminal
