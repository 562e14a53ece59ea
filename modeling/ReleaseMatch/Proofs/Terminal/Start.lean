import ReleaseMatch.Proofs.Settings.Sources
import ReleaseMatch.Terminal.Run
set_option autoImplicit false

/-!
# Starting a command

What a run does up to the options of its command depends on the options in front of the name of the
command alone.
-/
namespace ReleaseMatch.Terminal

/-- Options that are followed by nothing are read in the same way in front of an argument. -/
theorem scan_append {c : CommandSpec} {front args : List String} {s : Scan}
    (h : scan c false front = .ok s) (hrest : s.rest = [])
    (hargs : scan c false args = .ok ⟨[], args⟩) :
    scan c false (front ++ args) = .ok { s with rest := args } := by
  -- An option that has been read comes in front of what is read behind it.
  have hback {name value : String} {rest : List String} {s : Scan}
      (ih : ∀ {s : Scan}, scan c false rest = .ok s → s.rest = [] →
        scan c false (rest ++ args) = .ok { s with rest := args })
      (h : (scan c false rest).map (Scan.addOption name value) = .ok s) (hrest : s.rest = []) :
      (scan c false (rest ++ args)).map (Scan.addOption name value) =
        .ok { s with rest := args } := by
    obtain ⟨inner, hinner, rfl⟩ := map_eq_ok_iff.1 h
    rw [ih hinner hrest]
    rfl
  fun_induction scan c false front generalizing s with
  | case1 =>
    obtain rfl := Except.ok.inj h
    exact hargs
  | case2 rest =>
    obtain rfl := Except.ok.inj h
    obtain rfl : rest = [] := hrest
    simp [scan]
  | case3 | case4 | case7 => exact absurd h (by simp)
  | case5 arg rest hdash hoption name o hname hkind hsplit ih =>
    rw [List.cons_append, scan, if_neg hdash, if_pos hoption]
    simp only [hsplit, hname, hkind]
    exact hback ih h hrest
  | case6 arg rest hdash hoption name o hname value hkind hsplit ih =>
    rw [List.cons_append, scan, if_neg hdash, if_pos hoption]
    simp only [hsplit, hname]
    exact hback ih h hrest
  | case8 arg hdash hoption name o hname value rest hkind hsplit ih =>
    rw [List.cons_append, List.cons_append, scan, if_neg hdash, if_pos hoption]
    simp only [hsplit, hname]
    exact hback ih h hrest
  | case9 => contradiction
  | case10 =>
    obtain rfl := Except.ok.inj h
    exact absurd hrest (by simp)

theorem scan_name (c : Command) (args : List String) :
    scan program false (c.name :: args) = .ok ⟨[], c.name :: args⟩ := by
  have hdash : c.name ≠ "--" := by cases c <;> decide
  have hoption : looksLikeOption c.name = false := by cases c <;> decide
  simp [scan, hdash, hoption]

theorem resolve_name (tree : Files.Tree) (c : Command) (args : List String) :
    resolve tree (c.name :: args) = .ok (c, args) := by
  have hname : Command.ofName? c.name = some c := by cases c <;> decide
  simp [resolve, hname]

theorem settingsOf_eq_ok {i : Invocation} {s : Scan} {settings : Settings}
    (h : settingsOf i s = .ok settings) :
    ∃ entries base, (Settings.loadFile i.tree i.env (s.path? "--config")).result = .ok entries ∧
      Settings.ofTables i.env entries = .ok base ∧
      base.log.override (logOverride s) = .ok settings.log ∧ settings.builder = base.builder := by
  obtain ⟨base, hbase, h⟩ := bind_eq_ok.1 h
  obtain ⟨log, hlog, h⟩ := bind_eq_ok.1 h
  obtain rfl := Except.ok.inj h
  obtain ⟨entries, hentries, htables⟩ := bind_eq_ok.1 hbase
  exact ⟨entries, base, hentries, htables, mapError_eq_ok_iff.1 hlog, rfl⟩

theorem setUp_eq_ok {i : Invocation} {s : Scan} {surface surface' : Log.Surface}
    {journal : Log.Journal} {settings : Settings}
    (h : setUp i s surface = (journal, surface', .ok settings)) :
    settingsOf i s = .ok settings ∧
      ({} : Log.Journal).configure settings.log i.env i.now surface = (journal, surface', none) := by
  rw [setUp] at h
  cases hsettings : settingsOf i s with
  | error f => simp [hsettings] at h
  | ok found =>
    simp only [hsettings] at h
    generalize hlog : ({} : Log.Journal).configure found.log i.env i.now surface = configured at h
    obtain ⟨j, out, fault⟩ := configured
    cases fault with
    | some f => simp at h
    | none =>
      simp only [Prod.mk.injEq, Except.ok.injEq] at h
      obtain ⟨rfl, rfl, rfl⟩ := h
      exact ⟨rfl, hlog⟩

/-- Options of the program that can be read, with settings that load. The arguments of the invocation
do not count. -/
structure Start (i : Invocation) where
  front : List String
  options : Scan
  journal : Log.Journal
  surface : Log.Surface
  settings : Settings
  scan_front : scan program false front = .ok options
  complete : options.rest = []
  check_options : checkValues i.tree program options = .ok ()
  setUp_options : setUp i options { tree := i.tree } = (journal, surface, .ok settings)

namespace Start

variable {i : Invocation} (start : Start i)

def run (args : List String) : Report :=
  Terminal.run { i with args := start.front ++ args }

def screen : Screen :=
  Screen.play i.now start.journal { surface := start.surface } (defaultsNote start.settings.builder)

def tree : Files.Tree := start.screen.surface.tree

theorem readProgram_eq (c : Command) (args : List String) :
    readProgram i.tree (start.front ++ c.name :: args) =
      .ok { start.options with rest := c.name :: args } := by
  have hcheck : checkValues i.tree program { start.options with rest := c.name :: args } = .ok () :=
    start.check_options
  rw [readProgram, scan_append start.scan_front start.complete (scan_name c args)]
  change (checkValues i.tree program _ >>= fun _ => _) = _
  rw [hcheck]
  rfl

theorem run_eq (c : Command) (args : List String) :
    start.run (c.name :: args) =
      runCommand { i with args := start.front ++ c.name :: args } start.settings.builder
        start.journal c args start.screen := by
  have hempty : (start.front ++ c.name :: args).isEmpty = false := by simp
  have hsetUp : setUp { i with args := start.front ++ c.name :: args }
      { start.options with rest := c.name :: args } { tree := i.tree } =
        (start.journal, start.surface, .ok start.settings) := start.setUp_options
  rw [run, Terminal.run]
  simp only [hempty, Bool.false_eq_true, if_false, readProgram_eq, resolve_name, runSetUp, hsetUp]
  rfl

theorem ending_eq {c : Command} {args : List String} {s : Scan} {course : Course}
    (hread : readCommand start.tree c args = .ok s)
    (hcourse : carryOut start.tree i.stdin start.settings.builder c s = .ok course) :
    (start.run (c.name :: args)).ending = course.ending := by
  rw [run_eq, runCommand]
  rw [tree] at hread hcourse
  simp only [hread, Except.bind, hcourse]
  rfl

theorem exists_defaults : ∃ defaults, start.settings.builder.defaults = .ok defaults := by
  obtain ⟨hsettings, -⟩ := setUp_eq_ok start.setUp_options
  obtain ⟨entries, base, -, htables, -, hbuilder⟩ := settingsOf_eq_ok hsettings
  obtain ⟨c, hdefaults⟩ := Settings.exists_defaults htables
  exact ⟨_, hbuilder ▸ hdefaults⟩

end Start

def Start.bare (i : Invocation)
    (h : (setUp i ⟨[], []⟩ { tree := i.tree }).2.2.toOption.isSome = true) : Start i where
  front := []
  options := ⟨[], []⟩
  journal := (setUp i ⟨[], []⟩ { tree := i.tree }).1
  surface := (setUp i ⟨[], []⟩ { tree := i.tree }).2.1
  settings := (setUp i ⟨[], []⟩ { tree := i.tree }).2.2.toOption.get h
  scan_front := rfl
  complete := rfl
  check_options := rfl
  setUp_options := by
    generalize setUp i ⟨[], []⟩ { tree := i.tree } = result at h ⊢
    obtain ⟨journal, surface, outcome⟩ := result
    cases outcome with
    | error f => exact absurd h (by simp [Except.toOption])
    | ok settings => rfl

end ReleaseMatch.Terminal
