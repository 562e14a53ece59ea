import ReleaseMatch.Proofs.Document.Failure
import ReleaseMatch.Proofs.Terminal.Start
set_option autoImplicit false

/-!
# Condition files that cannot be loaded

Compiling and testing end with one code where a condition file is missing and with another where it is
refused. They break off where a fault comes through that is told as no refusal, or where a name in the
path is too long.
-/
namespace ReleaseMatch.Terminal

open Document

/-- The command line asks for a condition file: to compile it, or to test it on some samples. -/
inductive Start.Asks {i : Invocation} (start : Start i) : List String → Files.Path → Prop
  | compile {args : List String} {s : Scan}
      (hread : readCommand start.tree .compile args = .ok s) :
      Asks start (Command.compile.name :: args) (fileOf s)
  | test {args samples : List String} {s : Scan}
      (hread : readCommand start.tree .test args = .ok s)
      (hsamples : samplesOf start.tree i.stdin (testOptions s) = .ok samples)
      (hsome : samples ≠ []) :
      Asks start (Command.test.name :: args) (fileOf s)

/-- How a command ends where the condition file it asks for cannot be loaded. -/
structure FailsAs (tree : Files.Tree) (defaults : Defaults) (file : Files.Path) (ending : Ending) :
    Prop where
  missing : tree.holds file.text = .ok false → ending = .exit 20
  refused : tree.holds file.text = .ok true → ¬ComesThrough tree file.text →
    (∃ f, (loadFile tree file.text defaults).result = .error f) → ending = .exit 10
  through : tree.holds file.text = .ok true → ComesThrough tree file.text →
    ∃ f kind, (loadFile tree file.text defaults).result = .error f ∧ f.otherKind = some kind ∧
      ending = .broken kind f.message
  tooLong (f : Files.Fault) : tree.holds file.text = .error f → ending = .broken f.kind f.message

theorem otherKind_eq_none_iff {tree : Files.Tree} {path : String} (hwhole : IsWhole tree path) (defaults : Defaults) :
    (∀ f, (loadFile tree path defaults).result = .error f → f.otherKind = none) ↔
      ¬ComesThrough tree path := by
  rw [← loadFile_otherKind_iff hwhole defaults]
  simp only [not_exists, not_and, Bool.not_eq_true, Option.isSome_eq_false_iff, Option.isNone_iff_eq_none]

section

variable {tree : Files.Tree} {builder : BuilderSettings} {defaults : Defaults} {file : Files.Path}
  (combinator : Option Combinator) (hdefaults : builder.defaults = .ok defaults)

include hdefaults

theorem loadSet_eq_error {f : FileFault} (hholds : tree.holds file.text = .ok true)
    (hf : (loadFile tree file.text defaults).result = .error f) :
    ∃ c, loadSet tree builder file combinator = .error c ∧
      c.ending = match f.otherKind with
        | some kind => .broken kind f.message
        | none => .exit 10 := by
  rw [loadSet, hholds]
  simp only [hdefaults, hf]
  refine ⟨_, rfl, ?_⟩
  cases f.otherKind with
  | some kind => rfl
  | none => rfl

theorem failsAs_of_loadSet (hwhole : IsWhole tree file.text) {ending : Ending}
    (h : ∀ c, loadSet tree builder file combinator = .error c → ending = c.ending) :
    FailsAs tree defaults file ending where
  missing hholds := by
    have hload : loadSet tree builder file combinator =
        .error (.exit .targetNotFound [.complain ("Error: File not found: " ++ file.text)]) := by
      rw [loadSet, hholds]
    exact h _ hload
  refused hholds hthrough hfails := by
    obtain ⟨f, hf⟩ := hfails
    have hkind := (otherKind_eq_none_iff hwhole defaults).2 hthrough f hf
    obtain ⟨c, hload, hend⟩ := loadSet_eq_error combinator hdefaults hholds hf
    rw [h c hload, hend, hkind]
  through hholds hthrough := by
    obtain ⟨f, hf, hsome⟩ := (loadFile_otherKind_iff hwhole defaults).2 hthrough
    obtain ⟨kind, hkind⟩ := Option.isSome_iff_exists.1 hsome
    obtain ⟨c, hload, hend⟩ := loadSet_eq_error combinator hdefaults hholds hf
    exact ⟨f, kind, hf, hkind, by rw [h c hload, hend, hkind]⟩
  tooLong f hholds := by
    have hload : loadSet tree builder file combinator =
        .error ⟨[], .broken f.kind f.message⟩ := by
      rw [loadSet, hholds]
    exact h _ hload

omit hdefaults

variable {combinator}

theorem withOutcome_of_error {go : ConditionSet → Outcome → Course} {c : Course}
    (h : loadSet tree builder file combinator = .error c) :
    withOutcome tree builder file combinator go = c := by
  rw [withOutcome, h]

end

section

variable {i : Invocation} {start : Start i} {args : List String} {file : Files.Path}

theorem Start.Asks.failsAs (h : start.Asks args file) (hwhole : IsWhole start.tree file.text) {defaults : Defaults}
    (hdefaults : start.settings.builder.defaults = .ok defaults) :
    FailsAs start.tree defaults file (start.run args).ending := by
  cases h with
  | @compile args s hread =>
    refine failsAs_of_loadSet (combinatorOf s) hdefaults hwhole fun c hload => ?_
    rw [start.ending_eq hread rfl, compileCourse]
    exact congrArg Course.ending (withOutcome_of_error hload)
  | @test args samples s hread hsamples hsome =>
    have hcourse : carryOut start.tree i.stdin start.settings.builder .test s =
        .ok (testCourse start.tree start.settings.builder (testOptions s) samples) := by
      simp [carryOut, carryOutTest, hsamples, hsome]
    refine failsAs_of_loadSet (combinatorOf s) hdefaults hwhole fun c hload => ?_
    rw [start.ending_eq hread hcourse, testCourse]
    exact congrArg Course.ending (withOutcome_of_error hload)

end

def handed (bytes : List UInt8) : Invocation where
  args := []
  env := ⟨[], "/home/user"⟩
  tree := ⟨["work"], "/work", [(["work", "f"], .file bytes)]⟩
  stdin := ""
  now := .null

/-- A byte that no character starts with. -/
def handedNoText : Start (handed [0xFF]) := .bare _ (by decide +kernel)

def handedOpenList : Start (handed "[".toUTF8.toList) := .bare _ (by decide +kernel)

theorem exists_error_of_kind {α : Type} {x : Except FileFault α} {k : Option String}
    (h : (x.mapError FileFault.otherKind).map (fun _ => ()) = .error k) :
    ∃ f, x = .error f ∧ f.otherKind = k := by
  cases x with
  | ok a => exact nomatch h
  | error f => exact ⟨f, rfl, Except.error.inj h⟩

end ReleaseMatch.Terminal
