import ReleaseMatch.Log.Journal
set_option autoImplicit false

/-!
# Sessions

What is done to the log one step after another: setting it up from settings as they are given, with
others in front of them or without, sending records, and silencing.
-/
namespace ReleaseMatch.Log

inductive Step
  | configure (draft : LogDraft)
  | override (base : LogDraft) (o : LogOverride)
  | silence
  | log (level : Level) (r : Record)

structure Session where
  journal : Journal := {}
  tree : Files.Tree

inductive StepFault
  | setting (fault : SettingFault)
  | setup (fault : SetupFault)
  | reserved (n : ReservedName)
  deriving DecidableEq, Repr

def StepFault.message : StepFault → String
  | .setting fault => fault.message
  | .setup fault => fault.message
  | .reserved n => n.message

def StepFault.kind : StepFault → String
  | .setting fault => fault.kind
  | .setup fault => fault.kind
  | .reserved _ => "KeyError"

/-- What comes of a step: the settings that it applied, or a fault, and what it wrote to the standard
error stream. -/
structure Reply where
  applied : Option LogSettings := none
  fault : Option StepFault := none
  stderr : String := ""

namespace Session

def apply (s : Session) (env : Environment) (now : Value)
    (settings : Except SettingFault LogSettings) : Session × Reply :=
  match settings with
  | .error f => (s, { fault := some (.setting f) })
  | .ok settings =>
    let (journal, out, fault) := s.journal.configure settings env now { tree := s.tree }
    (⟨journal, out.tree⟩,
      { applied := some settings, fault := fault.map .setup, stderr := out.stderr })

def step (s : Session) (env : Environment) (now : Value) : Step → Session × Reply
  | .configure draft => s.apply env now draft.check
  | .override base o => s.apply env now (base.check.bind (·.override o))
  | .silence => ({ s with journal := s.journal.silence }, {})
  | .log level r =>
    let (out, reserved) := s.journal.log level r { tree := s.tree }
    ({ s with tree := out.tree },
      { fault := reserved.map .reserved, stderr := out.stderr })

end Session
end ReleaseMatch.Log
