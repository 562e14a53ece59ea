import ReleaseMatch.Proofs.Settings.Verdict
import ReleaseMatch.Terminal.Run
set_option autoImplicit false

/-!
# Runs without settings

A run whose settings are refused for a wrong value ends with a code of its own. One whose settings fail in
another way breaks off with the fault.
-/
namespace ReleaseMatch.Terminal

open Settings

def unsettled (v : Verdict) (f : Settings.Fault) : Ending :=
  match v with
  | .foreign => .broken f.kind f.message
  | _ => .exit 11

section

variable {i : Invocation} {s : Scan} {c : Command} {args : List String}

theorem args_ne_nil (hread : readProgram i.tree i.args = .ok s)
    (hresolve : resolve i.tree s.rest = .ok (c, args)) : i.args.isEmpty = false := by
  cases hargs : i.args with
  | nil =>
    rw [hargs] at hread
    obtain rfl : (⟨[], []⟩ : Scan) = s := Except.ok.inj hread
    exact nomatch hresolve
  | cons => rfl

theorem isInvalidValue_settings (f : Settings.Fault) :
    (SetupFault.settings f).isInvalidValue = true ↔ f.kind ∈ valueKinds := by
  simp [SetupFault.isInvalidValue, SetupFault.kind, valueKinds]

theorem course_ending (f : Settings.Fault) :
    (SetupFault.settings f).course.ending = unsettled f.verdict f := by
  rw [SetupFault.course, Fault.verdict]
  by_cases hkind : f.kind ∈ valueKinds
  · rw [if_pos ((isInvalidValue_settings f).2 hkind), if_pos hkind]
    rfl
  · rw [if_neg fun h => hkind ((isInvalidValue_settings f).1 h), if_neg hkind]
    rfl

theorem ending_of_load {f : Settings.Fault} (hread : readProgram i.tree i.args = .ok s)
    (hresolve : resolve i.tree s.rest = .ok (c, args))
    (hload : (load i.tree i.env (s.path? "--config")).result = .error f) :
    (run i).ending = unsettled f.verdict f := by
  have hsettings : settingsOf i s = .error f := by
    rw [settingsOf, hload]
    rfl
  have hsetUp : setUp i s { tree := i.tree } = ({}, { tree := i.tree }, .error (.settings f)) := by
    rw [setUp, hsettings]
  rw [run, args_ne_nil hread hresolve, if_neg Bool.false_ne_true]
  simp only [hread, hresolve, runSetUp, hsetUp]
  exact course_ending f

end

/-- What loading the settings comes to is what is seen in the values it looks at; and a run that cannot
load its settings ends accordingly. -/
theorem settings_judged (tree : Files.Tree) (env : Environment) (path : Option Files.Path) :
    (∀ v, Judged tree env path v ↔ outcome (load tree env path).result = v) ∧
    ∀ {i : Invocation} {s : Scan} {c : Command} {args : List String} {v : Verdict}
      {f : Settings.Fault}, readProgram i.tree i.args = .ok s →
      resolve i.tree s.rest = .ok (c, args) → Judged i.tree i.env (s.path? "--config") v →
      (load i.tree i.env (s.path? "--config")).result = .error f →
      (run i).ending = unsettled v f := by
  refine ⟨fun v => judged_iff, fun hread hresolve hjudged hload => ?_⟩
  rw [ending_of_load hread hresolve hload, ← judged_iff.1 hjudged, hload]
  rfl

def configured (line : String) : Invocation where
  args := ["operators"]
  env := ⟨[("RPB_CONFIG_PATH", "c")], "/home/user"⟩
  tree := ⟨["work"], "/work", [(["work", "c"], .file ("[logging]\n" ++ line).toUTF8.toList)]⟩
  stdin := ""
  now := .null

theorem load_configured_number :
    (load (configured "level = 3").tree (configured "level = 3").env none).result =
      .error (.setting (.unusable "int" "lower")) :=
  fault_eq_some.1 (by decide +kernel)

theorem load_configured_unknown :
    (load (configured "level = '3'").tree (configured "level = '3'").env none).result =
      .error (.setting (.level "3")) :=
  fault_eq_some.1 (by decide +kernel)

/-- A level that is no text is another kind of fault than a level that is not known. -/
theorem configured_endings :
    (Judged (configured "level = 3").tree (configured "level = 3").env none .foreign ∧
      (run (configured "level = 3")).ending =
        .broken "AttributeError" "'int' object has no attribute 'lower'") ∧
    (Judged (configured "level = '3'").tree (configured "level = '3'").env none .refused ∧
      (run (configured "level = '3'")).ending = .exit 11) := by
  obtain ⟨hjudge, hends⟩ := settings_judged (configured "level = 3").tree
    (configured "level = 3").env none
  obtain ⟨hjudge', -⟩ := settings_judged (configured "level = '3'").tree
    (configured "level = '3'").env none
  have hforeign := (hjudge .foreign).2 (by rw [load_configured_number]; decide)
  have hrefused := (hjudge' .refused).2 (by rw [load_configured_unknown]; decide)
  refine ⟨⟨hforeign, ?_⟩, hrefused, ?_⟩
  · exact @hends (configured "level = 3") ⟨[], ["operators"]⟩ .operators [] _ _ rfl rfl hforeign
      load_configured_number
  · exact @hends (configured "level = '3'") ⟨[], ["operators"]⟩ .operators [] _ _ rfl rfl hrefused
      load_configured_unknown

theorem configured_number_breaks :
    (∃ f, (load (configured "level = 3").tree (configured "level = 3").env none).result = .error f ∧
      f.kind = "AttributeError") ∧ (run (configured "level = 3")).ending.code = 1 :=
  ⟨⟨_, load_configured_number, rfl⟩, by decide +kernel⟩

end ReleaseMatch.Terminal
