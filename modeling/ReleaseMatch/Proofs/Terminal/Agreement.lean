import ReleaseMatch.Proofs.Document.Failure
import ReleaseMatch.Proofs.Outcome.Gates
import ReleaseMatch.Proofs.Terminal.Start
set_option autoImplicit false

/-!
# Compiling and testing agree

Both commands load a condition file and compile it in the same way, and what is left to them is to ask
the engine about the pattern. One looks only for faults of the syntax, the other for all; so they end
alike unless flags that exclude each other are in the pattern.
-/
namespace ReleaseMatch.Terminal

open Pattern

def found (tree : Files.Tree) (builder : BuilderSettings) (file : Files.Path)
    (combinator : Option Combinator) : Option (Except FlagFault Outcome) :=
  (loadSet tree builder file combinator).toOption.map fun loaded => loaded.2.compile

/-- The file is not there; or it is loaded or refused as a condition file, and not for another reason, and
there are no halves of characters in it. -/
def Answers (tree : Files.Tree) (builder : BuilderSettings) (file : Files.Path) : Prop :=
  tree.holds file.text = .ok false ∨
    tree.holds file.text = .ok true ∧ Document.IsWhole tree file.text ∧
      ∀ defaults, builder.defaults = .ok defaults →
        ∀ f, (Document.loadFile tree file.text defaults).result = .error f → f.otherKind = none

def Accepted (o : Option (Except FlagFault Outcome)) : Prop :=
  ∃ pattern t, o = some (.ok (.compiled pattern)) ∧ Tester.read pattern = .ok t

def RejectedFor (o : Option (Except FlagFault Outcome)) (r : Rejection) : Prop :=
  ∃ pattern, o = some (.ok (.compiled pattern)) ∧ Tester.read pattern = .error r

/-- Case flags that cannot be compared, or flags in the pattern that exclude each other. -/
def FlagsFail (o : Option (Except FlagFault Outcome)) : Prop :=
  (∃ f, o = some (.error f)) ∨ RejectedFor o .mixedVersions ∨ RejectedFor o .mixedEncodings

/-- Both end with the same code, one that the commands have for documents. -/
def EndAlike (a b : Ending) : Prop :=
  ∃ code ∈ [0, 10, 20, 40, 41, 42], a = .exit code ∧ b = .exit code

section

variable {tree : Files.Tree} {builder : BuilderSettings} {file : Files.Path}
  {combinator : Option Combinator}

theorem ending_of_loadSet_error (h : Answers tree builder file)
    (hdefaults : ∃ defaults, builder.defaults = .ok defaults) {c : Course}
    (hload : loadSet tree builder file combinator = .error c) :
    c.ending = .exit 20 ∨ c.ending = .exit 10 := by
  obtain ⟨defaults, hdefaults⟩ := hdefaults
  rw [loadSet] at hload
  rcases h with habsent | ⟨hpresent, -, hrefused⟩
  · rw [habsent] at hload
    obtain rfl := Except.error.inj hload
    exact .inl rfl
  · rw [hpresent, hdefaults] at hload
    cases hresult : (Document.loadFile tree file.text defaults).result with
    | ok s => simp [hresult] at hload
    | error f =>
      simp only [hresult, hrefused defaults hdefaults f hresult, Except.error.injEq] at hload
      rw [← hload]
      exact .inr rfl

theorem answers_of_loads (hpresent : (tree.holds file.text).toOption = some true)
    (hwhole : Document.IsWhole tree file.text)
    (hloads : ∀ defaults ∈ builder.defaults.toOption,
      (Document.loadFile tree file.text defaults).result.toOption.isSome = true) :
    Answers tree builder file := by
  refine .inr ⟨toOption_eq_some.1 hpresent, hwhole, fun defaults hdefaults f hf => ?_⟩
  have hsome := hloads defaults (toOption_eq_some.2 hdefaults)
  rw [hf] at hsome
  exact absurd hsome (by simp [Except.toOption])

def compileEnding : Outcome → Ending
  | .compiled pattern =>
    match Tester.read pattern with
    | .ok _ => .exit 0
    | .error (.malformed _) => .exit 42
    | .error r => .broken "ValueError" r.message
  | o => .exit (ExitCode.ofOutcome o).toNat

def testEnding : Outcome → Ending
  | .compiled pattern =>
    match Tester.read pattern with
    | .ok _ => .exit 0
    | .error _ => .exit 42
  | o => .exit (ExitCode.ofOutcome o).toNat

theorem ending_withOutcome {go : Document.ConditionSet → Outcome → Course}
    {notes : List Event} {s : Document.ConditionSet}
    (h : loadSet tree builder file combinator = .ok (notes, s)) :
    (withOutcome tree builder file combinator go).ending =
      match s.compile with
      | .error f => .broken "TypeError" f.message
      | .ok o => (go s o).ending := by
  rw [withOutcome, h]
  cases hcompile : s.compile with
  | error f => simp [Course.after, hcompile]
  | ok o => simp [Course.after, hcompile]

theorem ending_compileCourse {notes : List Event} {s : Document.ConditionSet}
    {options : CompileOptions}
    (h : loadSet tree builder options.file options.combinator = .ok (notes, s)) :
    (compileCourse tree builder options).ending =
      match s.compile with
      | .error f => .broken "TypeError" f.message
      | .ok o => compileEnding o := by
  rw [compileCourse, ending_withOutcome h]
  cases s.compile with
  | error f => rfl
  | ok o =>
    cases o with
    | compiled pattern =>
      simp only [Course.after, compileEnding, Tester.read]
      cases Regex.read pattern.toList with
      | ok regex => rfl
      | error r => cases r <;> rfl
    | _ => rfl

theorem ending_testCourse {notes : List Event} {s : Document.ConditionSet} {options : TestOptions}
    {samples : List String}
    (h : loadSet tree builder options.file options.combinator = .ok (notes, s)) :
    (testCourse tree builder options samples).ending =
      match s.compile with
      | .error f => .broken "TypeError" f.message
      | .ok o => testEnding o := by
  rw [testCourse, ending_withOutcome h]
  cases s.compile with
  | error f => rfl
  | ok o =>
    cases o with
    | compiled pattern =>
      simp only [testEnding, Tester.ofOutcome, Outcome.require]
      cases Tester.read pattern with
      | ok t => rfl
      | error r => rfl
    | _ => rfl

end

/-! Agreement -/

/-- What the endings of both commands say of the conditions in a file. -/
structure EndingsTell (o : Option (Except FlagFault Outcome)) (a b : Ending) : Prop where
  alike_iff : EndAlike a b ↔ ¬FlagsFail o
  compile_accepted : a = .exit 0 ↔ Accepted o
  test_accepted : b = .exit 0 ↔ Accepted o
  compile_rejected : ∀ r, RejectedFor o r → (a = .exit 42 ↔ ¬FlagsFail o)
  test_rejected : ∀ r, RejectedFor o r → b = .exit 42

theorem endingsTell_alike {o : Option (Except FlagFault Outcome)} {code : Nat}
    (hcode : code ∈ [10, 20, 40, 41]) (hfault : ∀ f, o ≠ some (.error f))
    (hpattern : ∀ pattern, o ≠ some (.ok (.compiled pattern))) :
    EndingsTell o (.exit code) (.exit code) := by
  have hzero : code ≠ 0 := by
    rintro rfl
    exact absurd hcode (by decide)
  have hmem : code ∈ [0, 10, 20, 40, 41, 42] := by
    simp only [List.mem_cons, List.not_mem_nil, or_false] at hcode ⊢
    omega
  have hno : ∀ r, ¬RejectedFor o r := fun r ⟨pattern, heq, _⟩ => hpattern pattern heq
  have hflags : ¬FlagsFail o := by
    rintro (⟨f, heq⟩ | h | h)
    · exact hfault f heq
    · exact hno _ h
    · exact hno _ h
  have haccepted : ¬Accepted o := fun ⟨pattern, _, heq, _⟩ => hpattern pattern heq
  exact {
    alike_iff := iff_of_true ⟨code, hmem, rfl, rfl⟩ hflags
    compile_accepted := iff_of_false (by simp [hzero]) haccepted
    test_accepted := iff_of_false (by simp [hzero]) haccepted
    compile_rejected := fun r h => absurd h (hno r)
    test_rejected := fun r h => absurd h (hno r) }

section

variable {pattern : String}

theorem accepted_compiled_iff :
    Accepted (some (.ok (.compiled pattern))) ↔ ∃ t, Tester.read pattern = .ok t := by
  simp [Accepted]

theorem rejectedFor_compiled_iff {r : Rejection} :
    RejectedFor (some (.ok (.compiled pattern))) r ↔ Tester.read pattern = .error r := by
  simp [RejectedFor]

theorem flagsFail_compiled_iff : FlagsFail (some (.ok (.compiled pattern))) ↔
    Tester.read pattern = .error .mixedVersions ∨ Tester.read pattern = .error .mixedEncodings := by
  simp [FlagsFail, rejectedFor_compiled_iff]

theorem endingsTell_accepted {t : Tester} (h : Tester.read pattern = .ok t) :
    EndingsTell (some (.ok (.compiled pattern))) (.exit 0) (.exit 0) where
  alike_iff := iff_of_true ⟨0, by simp, rfl, rfl⟩ (by simp [flagsFail_compiled_iff, h])
  compile_accepted := by simp [accepted_compiled_iff, h]
  test_accepted := by simp [accepted_compiled_iff, h]
  compile_rejected := by simp [rejectedFor_compiled_iff, h]
  test_rejected := by simp [rejectedFor_compiled_iff, h]

theorem endingsTell_malformed {f : SyntaxFault} (h : Tester.read pattern = .error (.malformed f)) :
    EndingsTell (some (.ok (.compiled pattern))) (.exit 42) (.exit 42) where
  alike_iff := iff_of_true ⟨42, by simp, rfl, rfl⟩ (by simp [flagsFail_compiled_iff, h])
  compile_accepted := by simp [accepted_compiled_iff, h]
  test_accepted := by simp [accepted_compiled_iff, h]
  compile_rejected := by simp [flagsFail_compiled_iff, h]
  test_rejected := by simp

/-- Flags that exclude each other are no fault of the syntax. -/
theorem endingsTell_excluded {r : Rejection} {kind message : String}
    (h : Tester.read pattern = .error r) (hr : r = .mixedVersions ∨ r = .mixedEncodings) :
    EndingsTell (some (.ok (.compiled pattern))) (.broken kind message) (.exit 42) := by
  have hflags : FlagsFail (some (.ok (.compiled pattern))) := by
    rw [flagsFail_compiled_iff, h, Except.error.injEq, Except.error.injEq]
    exact hr
  exact {
    alike_iff := iff_of_false (by simp [EndAlike]) fun hno => hno hflags
    compile_accepted := by simp [accepted_compiled_iff, h]
    test_accepted := by simp [accepted_compiled_iff, h]
    compile_rejected := fun _ _ => iff_of_false (by simp) fun hno => hno hflags
    test_rejected := by simp }

end

theorem endingsTell_fault (f : FlagFault) {kind message : String} :
    EndingsTell (some (.error f)) (.broken kind message) (.broken kind message) where
  alike_iff := by simp [EndAlike, FlagsFail]
  compile_accepted := by simp [Accepted]
  test_accepted := by simp [Accepted]
  compile_rejected := by simp [RejectedFor]
  test_rejected := by simp [RejectedFor]

theorem endingsTell_outcome (o : Outcome) :
    EndingsTell (some (.ok o)) (compileEnding o) (testEnding o) := by
  cases o with
  | compiled pattern =>
    rw [compileEnding, testEnding]
    cases hread : Tester.read pattern with
    | ok t => exact endingsTell_accepted hread
    | error r =>
      cases r with
      | malformed f => exact endingsTell_malformed hread
      | mixedVersions => exact endingsTell_excluded hread (.inl rfl)
      | mixedEncodings => exact endingsTell_excluded hread (.inr rfl)
  | empty => exact endingsTell_alike (show 40 ∈ _ by decide) (by simp) (by simp)
  | advisory text positional mixed messages =>
    exact endingsTell_alike (show 41 ∈ _ by decide) (by simp) (by simp)

/-- The courses of both commands on a file that is there or not, and is loaded or refused. -/
theorem endingsTell_courses {tree : Files.Tree} {builder : BuilderSettings}
    (compiling : CompileOptions) (testing : TestOptions) (samples : List String)
    (hfile : testing.file = compiling.file) (hcombinator : testing.combinator = compiling.combinator)
    (h : Answers tree builder compiling.file)
    (hdefaults : ∃ defaults, builder.defaults = .ok defaults) :
    EndingsTell (found tree builder compiling.file compiling.combinator)
      (compileCourse tree builder compiling).ending
      (testCourse tree builder testing samples).ending := by
  cases hload : loadSet tree builder compiling.file compiling.combinator with
  | error course =>
    have hcompile : (compileCourse tree builder compiling).ending = course.ending := by
      rw [compileCourse, withOutcome, hload]
    have htest : (testCourse tree builder testing samples).ending = course.ending := by
      rw [testCourse, withOutcome, hfile, hcombinator, hload]
    have hnone : found tree builder compiling.file compiling.combinator = none := by
      rw [found, hload]
      rfl
    rw [hcompile, htest, hnone]
    rcases ending_of_loadSet_error h hdefaults hload with hend | hend
    · rw [hend]
      exact endingsTell_alike (by decide) (by simp) (by simp)
    · rw [hend]
      exact endingsTell_alike (by decide) (by simp) (by simp)
  | ok loaded =>
    obtain ⟨notes, s⟩ := loaded
    have hsome : found tree builder compiling.file compiling.combinator = some s.compile := by
      rw [found, hload]
      rfl
    rw [ending_compileCourse hload, ending_testCourse (by rw [hfile, hcombinator, hload]), hsome]
    cases s.compile with
    | error f => exact endingsTell_fault f
    | ok o => exact endingsTell_outcome o

section

variable {i : Invocation} (start : Start i) {compileArgs testArgs : List String}
  {compiling testing : Scan}

end

def asking (pattern : String) : Invocation where
  args := []
  env := ⟨[], "/home/user"⟩
  tree :=
    let condition := "\x7b\"id\": \"1\", \"operator\": \"matches\", \"value\": \"" ++ pattern ++ "\"\x7d"
    let text := "\x7b\"conditions\": [" ++ condition ++ "]\x7d"
    ⟨["work"], "/work", [(["work", "f"], .file text.toUTF8.toList)]⟩
  stdin := ""
  now := .null

def askingOpenGroup : Start (asking "(HDR") := .bare _ (by decide +kernel)

/-- A flag for another version of the syntax. -/
def askingOtherVersion : Start (asking "(?V0)HDR") := .bare _ (by decide +kernel)

end ReleaseMatch.Terminal
