import ReleaseMatch.Proofs.Log.Setup
import ReleaseMatch.Proofs.Text.Case
set_option autoImplicit false

/-!
# What a session comes to

The state of the log depends on the last settings that it was set up with, whatever came before: it has
the level that they name, a sink for the file if that is open, and one for the standard error stream.
Records are written once to each of these sinks. A record that makes no line is reported by each of them, and
one whose line is lost with a file that cannot be put aside is reported once. There is always one silent sink.
-/
namespace ReleaseMatch

/-! Names -/

theorem LogSettings.isAscii_of_mem_levels :
    ∀ name ∈ levels, name.toList.all Text.isAscii = true := by
  decide

theorem LogSettings.isAscii_of_mem_formats :
    ∀ name ∈ formats, name.toList.all Text.isAscii = true := by
  decide

theorem Level.lowered_name_ofName {s : String} (h : Text.lowered s ∈ LogSettings.levels) :
    Text.lowered (ofName s).name = Text.lowered s := by
  rw [ofName, Text.folded_eq_lowered (LogSettings.isAscii_of_mem_levels _ h)]
  simp only [LogSettings.levels, List.mem_cons, List.not_mem_nil, or_false] at h
  obtain h | h | h | h := h <;> rw [h] <;> decide +kernel

theorem Log.Format.ofName_eq_json_iff {s : String} (h : Text.lowered s ∈ LogSettings.formats) :
    ofName s = .json ↔ Text.lowered s = "json" := by
  rw [ofName, Text.folded_eq_lowered (LogSettings.isAscii_of_mem_formats _ h)]
  split
  · next hjson => exact iff_of_true rfl hjson
  · next hjson => exact iff_of_false (by simp) hjson

theorem LogDraft.names_of_check {d : LogDraft} {settings : LogSettings} (h : d.check = .ok settings) :
    Text.lowered settings.level ∈ LogSettings.levels ∧
      Text.lowered settings.format ∈ LogSettings.formats := by
  obtain ⟨hlevel, hformat, -⟩ := check_eq_ok_iff.1 h
  exact ⟨List.contains_iff_mem.1 (readName_eq_ok_iff.1 hlevel).2,
    List.contains_iff_mem.1 (readName_eq_ok_iff.1 hformat).2⟩

namespace Log

variable {settings : LogSettings} {env : Environment} {now : Value}

theorem Step.exists_check_of_accepted {st : Step} (h : st.settings? = some (.ok settings)) :
    ∃ d : LogDraft, d.check = .ok settings := by
  cases st with
  | configure draft => exact ⟨draft, Option.some.inj h⟩
  | override base o =>
    have hbind : base.check >>= (·.override o) = .ok settings := Option.some.inj h
    obtain ⟨b, -, hoverride⟩ := bind_eq_ok.1 hbind
    exact ⟨_, hoverride⟩
  | _ => exact absurd h (by simp [settings?])

/-! What settings ask for -/

/-- The file that settings come to: the one at their path, if it could be opened. -/
inductive FileFor (settings : LogSettings) (env : Environment) (tree : Files.Tree) :
    Option FileTarget → Prop
  | plain (hfile : settings.file = none) : FileFor settings env tree none
  | unavailable {path : Files.Path} {f : Files.Fault} (hfile : settings.file = some path)
      (hopen : (openFile settings env path tree).2 = .unavailable f) : FileFor settings env tree none
  | opened {path p : Files.Path} {t : FileTarget} (hfile : settings.file = some path)
      (hhome : path.expandHome env.home = .ok p)
      (hopen : (openFile settings env path tree).2 = .target t) (hplace : t.IsAt settings tree p) :
      FileFor settings env tree (some t)

/-- Whether the standard error stream is asked for. It takes the place of a file, too. -/
def usesStderr (settings : LogSettings) (file : Option FileTarget) : Bool :=
  settings.includeStderr.isSet || file.isNone

def targetsFor (settings : LogSettings) (file : Option FileTarget) : List Target :=
  (file.map Target.file).toList ++ if usesStderr settings file then [.stderr] else []

theorem length_targetsFor (settings : LogSettings) (file : Option FileTarget) :
    (targetsFor settings file).length = 1 ∨ (targetsFor settings file).length = 2 := by
  cases file with
  | none => simp [targetsFor, usesStderr]
  | some t => cases h : settings.includeStderr.isSet <;> simp [targetsFor, usesStderr, h]

/-- A log that is set up by some settings, with a file that is open or without one. -/
structure Configured (settings : LogSettings) (file : Option FileTarget) (format : Format)
    (j : Journal) : Prop where
  level : Text.lowered j.level.name = Text.lowered settings.level
  json : format = .json ↔ Text.lowered settings.format = "json"
  sinks : j.sinks = (targetsFor settings file).map (⟨·, j.level, format⟩)
  silent : j.silent = 1

theorem SetUp.configured {j j' : Journal} {tree : Files.Tree} (h : SetUp j settings env tree j' none)
    (hlevel : Text.lowered settings.level ∈ LogSettings.levels)
    (hformat : Text.lowered settings.format ∈ LogSettings.formats) (hsilent : j.silent = 1) :
    ∃ file, FileFor settings env tree file ∧
      Configured settings file (Format.ofName settings.format) j' := by
  have hsinks (file : Option FileTarget) : Journal.sinksFor settings file =
      (targetsFor settings file).map (⟨·, Level.ofName settings.level, Format.ofName settings.format⟩) := by
    cases file <;> simp [Journal.sinksFor, targetsFor, usesStderr, apply_ite]
  have hconfigured (file : Option FileTarget) :
      Configured settings file (Format.ofName settings.format)
        { j with level := Level.ofName settings.level, sinks := Journal.sinksFor settings file } :=
    ⟨Level.lowered_name_ofName hlevel, Format.ofName_eq_json_iff hformat, hsinks file, hsilent⟩
  cases h with
  | plain hfile => exact ⟨none, .plain hfile, hconfigured none⟩
  | unavailable hfile hopen => exact ⟨none, .unavailable hfile hopen, hconfigured none⟩
  | @opened path t hfile hopen =>
    obtain ⟨-, p, hhome, hplace⟩ := isAt_of_openFile hopen
    exact ⟨some t, .opened hfile hhome hopen hplace, hconfigured (some t)⟩

/-! Sending records -/

/-- What writing a line to the files comes to. Without a file of the log there is nothing to write. -/
inductive LandsIn (tree : Files.Tree) (line : String) :
    Option FileTarget → Files.Tree × Option RotationFault → Prop
  | nowhere : LandsIn tree line none (tree, none)
  | file {t : FileTarget} {r : Files.Tree × Option RotationFault} (h : t.Lands tree line r) :
      LandsIn tree line (some t) r

def lossReport (r : Record) : Option RotationFault → String
  | none => ""
  | some f => r.report f.kind f.message

theorem Sink.emit_file {t : FileTarget} {floor level : Level} {format : Format} {r : Record} {line : String}
    (hlevel : ¬level.number < floor.number) (hline : r.line format = .ok line) (tree : Files.Tree) :
    Sink.emit ⟨.file t, floor, format⟩ level r { tree } =
      ⟨(t.write tree (line ++ "\n")).1, lossReport r (t.write tree (line ++ "\n")).2⟩ := by
  rw [emit, if_neg hlevel, hline]
  dsimp only
  generalize t.write tree (line ++ "\n") = written
  obtain ⟨tree', _ | f⟩ := written
  · rfl
  · exact congrArg (Surface.mk tree') String.empty_append

theorem Configured.write {file : Option FileTarget} {format : Format} {j : Journal}
    (h : Configured settings file format j) {level : Level} {r : Record} {line : String} {tree : Files.Tree}
    (hopen : ∀ t, file = some t → t.IsOpen tree) (hlevel : j.level.number ≤ level.number)
    (hline : r.line format = .ok line) : ∃ tree' fault, LandsIn tree (line ++ "\n") file (tree', fault) ∧
      j.write level r { tree } =
        ⟨tree', lossReport r fault ++ if usesStderr settings file then line ++ "\n" else ""⟩ := by
  have hnot := Nat.not_lt.2 hlevel
  have hstderr (out : Surface) : Sink.emit ⟨.stderr, j.level, format⟩ level r out = out.print (line ++ "\n") := by
    rw [Sink.emit, if_neg hnot, hline]
  rw [Journal.write, if_neg hnot, h.sinks, targetsFor]
  cases file with
  | none =>
    refine ⟨tree, none, .nowhere, ?_⟩
    simp [usesStderr, hstderr, Surface.print, lossReport]
  | some t =>
    have hfile := Sink.emit_file (t := t) hnot hline tree
    have hlands := (hopen t rfl).lands_write (line ++ "\n")
    generalize t.write tree (line ++ "\n") = written at hfile hlands
    obtain ⟨tree', fault⟩ := written
    refine ⟨tree', fault, .file hlands, ?_⟩
    cases usesStderr settings (some t) <;> simp [hfile, hstderr, Surface.print]

theorem Configured.write_of_noLine {file : Option FileTarget} {format : Format} {j : Journal}
    (h : Configured settings file format j) {level : Level} {r : Record} {f : RecordFault}
    (hlevel : j.level.number ≤ level.number) (hline : r.line format = .error f) (tree : Files.Tree) :
    j.write level r { tree } =
      ⟨tree, String.join ((targetsFor settings file).map fun _ => r.report f.kind f.message)⟩ := by
  have hnot := Nat.not_lt.2 hlevel
  have hemit (target : Target) (out : Surface) : Sink.emit ⟨target, j.level, format⟩ level r out =
      out.print (r.report f.kind f.message) := by
    rw [Sink.emit, if_neg hnot, hline]
  have hall (targets : List Target) (out : Surface) :
      (targets.map (⟨·, j.level, format⟩)).foldl (fun out s => Sink.emit s level r out) out =
        out.print (String.join (targets.map fun _ => r.report f.kind f.message)) := by
    induction targets generalizing out with
    | nil => simp [Surface.print]
    | cons target rest ih =>
      rw [List.map_cons, List.foldl_cons, hemit, ih, List.map_cons, String.join_cons]
      simp only [Surface.print, String.append_assoc]
  rw [Journal.write, if_neg hnot, h.sinks, hall]
  exact congrArg (Surface.mk tree) String.empty_append

namespace Session

/-- What sending a record comes to: from the level of the log on, one line in the file, if there is one,
and one on the standard error stream, if that is asked for. A record without a line is reported for each of
them instead, and a line that is lost to the file is reported once. -/
structure Sends (settings : LogSettings) (file : Option FileTarget) (format : Format) (s : Session)
    (env : Environment) (now : Value) (level : Level) (r : Record) : Prop where
  low : level.number < s.journal.level.number → s.step env now (.log level r) = (s, {})
  reserved (n : ReservedName) : s.journal.level.number ≤ level.number →
    Journal.reserved? r.given = some n →
    s.step env now (.log level r) = (s, { fault := some (.reserved n) })
  noLine (f : RecordFault) : s.journal.level.number ≤ level.number →
    Journal.reserved? r.given = none → r.line format = .error f →
    s.step env now (.log level r) =
      (s, { stderr := String.join ((targetsFor settings file).map fun _ => r.report f.kind f.message) })
  written (line : String) : s.journal.level.number ≤ level.number →
    Journal.reserved? r.given = none → r.line format = .ok line →
    ∃ tree fault, LandsIn s.tree (line ++ "\n") file (tree, fault) ∧
      s.step env now (.log level r) = ({ s with tree },
        { stderr := lossReport r fault ++ if usesStderr settings file then line ++ "\n" else "" })

/-- A log that is set up by some settings, with its file open. -/
structure Stands (settings : LogSettings) (file : Option FileTarget) (format : Format) (s : Session) : Prop where
  configured : Configured settings file format s.journal
  isOpen (t : FileTarget) : file = some t → t.IsOpen s.tree

theorem Stands.sends {s : Session} {file : Option FileTarget} {format : Format}
    (h : s.Stands settings file format) (level : Level) (r : Record) :
    s.Sends settings file format env now level r where
  low hlow := by
    rw [step, Journal.log, if_pos hlow]
    rfl
  reserved n hlevel hreserved := by
    rw [step, Journal.log, if_neg (Nat.not_lt.2 hlevel), hreserved]
    rfl
  noLine f hlevel hreserved hline := by
    rw [step, Journal.log, if_neg (Nat.not_lt.2 hlevel), hreserved]
    dsimp only
    rw [h.configured.write_of_noLine hlevel hline]
    rfl
  written line hlevel hreserved hline := by
    obtain ⟨tree, fault, hlands, hwrite⟩ := h.configured.write h.isOpen hlevel hline
    refine ⟨tree, fault, hlands, ?_⟩
    rw [step, Journal.log, if_neg (Nat.not_lt.2 hlevel), hreserved]
    dsimp only
    rw [hwrite]
    rfl

/-! Runs -/

section

variable {s : Session} {st : Step}

theorem journal_of_idle_of_silent (hsilent : s.journal.silent = 1) (h : st.settings? = none) :
    (s.step env now st).1.journal = s.journal := by
  cases st with
  | silence => rw [step, Journal.silence, if_neg (by simp [hsilent])]
  | log level r => rfl
  | _ => exact absurd h (by simp [Step.settings?])

theorem silent_step (hsilent : s.journal.silent = 1) : (s.step env now st).1.journal.silent = 1 := by
  cases hsettings : st.settings? with
  | none => rwa [journal_of_idle_of_silent hsilent hsettings]
  | some r =>
    cases r with
    | error f => rwa [step_of_refused hsettings]
    | ok settings =>
      obtain ⟨f, hsetUp, -⟩ := setUp_of_accepted s env now hsettings
      rwa [hsetUp.silent_eq]

theorem journal_of_not_accepted (hsilent : s.journal.silent = 1)
    (h : ∀ settings, st.settings? ≠ some (.ok settings)) :
    (s.step env now st).1.journal = s.journal := by
  cases hsettings : st.settings? with
  | none => exact journal_of_idle_of_silent hsilent hsettings
  | some r =>
    cases r with
    | error f => rw [step_of_refused hsettings]
    | ok settings => exact absurd hsettings (h settings)

theorem stands_of_accepted (hsilent : s.journal.silent = 1)
    (hsettings : st.settings? = some (.ok settings)) (hfault : (s.step env now st).2.fault = none) :
    ∃ file, FileFor settings env s.tree file ∧
      (s.step env now st).1.Stands settings file (Format.ofName settings.format) := by
  obtain ⟨f, hsetUp, hreply⟩ := setUp_of_accepted s env now hsettings
  obtain ⟨draft, hcheck⟩ := Step.exists_check_of_accepted hsettings
  obtain ⟨hlevel, hformat⟩ := LogDraft.names_of_check hcheck
  obtain rfl : f = none := by simpa [hreply] using hfault
  obtain ⟨file, hfile, hconfigured⟩ := hsetUp.configured hlevel hformat hsilent
  refine ⟨file, hfile, hconfigured, fun t ht => ?_⟩
  have hsink : ⟨.file t, (s.step env now st).1.journal.level, Format.ofName settings.format⟩ ∈
      (s.step env now st).1.journal.sinks := by
    rw [hconfigured.sinks, ht]
    exact List.mem_map_of_mem (by simp [targetsFor])
  exact isOpen_of_accepted hsettings hsink rfl

theorem Stands.isOpen_log {file : Option FileTarget} {format : Format} (h : s.Stands settings file format)
    (level : Level) (r : Record) {t : FileTarget} (ht : file = some t) :
    t.IsOpen (s.step env now (.log level r)).1.tree := by
  have hsends : s.Sends settings file format env now level r := h.sends level r
  by_cases hlow : level.number < s.journal.level.number
  · rw [hsends.low hlow]
    exact h.isOpen t ht
  have hlevel := Nat.le_of_not_lt hlow
  cases hreserved : Journal.reserved? r.given with
  | some n =>
    rw [hsends.reserved n hlevel hreserved]
    exact h.isOpen t ht
  | none =>
    cases hline : r.line format with
    | error f =>
      rw [hsends.noLine f hlevel hreserved hline]
      exact h.isOpen t ht
    | ok line =>
      obtain ⟨tree, fault, hlands, hstep⟩ := hsends.written line hlevel hreserved hline
      rw [hstep]
      subst ht
      cases hlands with
      | file hlands => exact (h.isOpen t rfl).of_lands hlands

theorem Stands.step_of_not_accepted {file : Option FileTarget} {format : Format}
    (h : s.Stands settings file format) (hst : ∀ settings, st.settings? ≠ some (.ok settings)) :
    (s.step env now st).1.Stands settings file format := by
  refine ⟨(journal_of_not_accepted h.configured.silent hst).symm ▸ h.configured, fun t ht => ?_⟩
  cases hsettings : st.settings? with
  | none =>
    cases st with
    | silence => exact h.isOpen t ht
    | log level r => exact h.isOpen_log level r ht
    | _ => exact absurd hsettings (by simp [Step.settings?])
  | some r =>
    cases r with
    | error f =>
      rw [step_of_refused hsettings]
      exact h.isOpen t ht
    | ok settings => exact absurd hsettings (hst settings)

end

def after (s : Session) (env : Environment) (steps : List (Value × Step)) : Session :=
  steps.foldl (fun s (now, st) => (s.step env now st).1) s

theorem silent_after {s : Session} (hsilent : s.journal.silent = 1) (steps : List (Value × Step)) :
    (s.after env steps).journal.silent = 1 := by
  induction steps generalizing s with
  | nil => exact hsilent
  | cons p rest ih => exact ih (silent_step hsilent)

theorem Stands.after {s : Session} {file : Option FileTarget} {format : Format}
    (h : s.Stands settings file format) {steps : List (Value × Step)}
    (hsteps : ∀ p ∈ steps, ∀ settings, p.2.settings? ≠ some (.ok settings)) :
    (s.after env steps).Stands settings file format := by
  induction steps generalizing s with
  | nil => exact h
  | cons p rest ih =>
    obtain ⟨hp, hrest⟩ := List.forall_mem_cons.1 hsteps
    exact ih (h.step_of_not_accepted hp) hrest

/-- A log that goes to one file, and then to another and to the standard error stream. -/
def relogged : List (Value × Step) :=
  [(.null, .configure { level := .text "DEBUG", file := some (.ofText "old/rpb.log") }),
    (.null, .log .info { logger := "", level := .int 20, template := .text "one", created := .int 0 })]

def onBoth : LogDraft where
  level := .text "Warning"
  file := some (.ofText "new/rpb.log")
  includeStderr := .bool true

def quiet : List (Value × Step) :=
  [(.null, .silence), (.null, .configure { level := .text "loud" }),
    (.null, .log .debug { logger := "", level := .int 10, template := .text "two", created := .int 0 })]

/-- There is a directory where the file of the log would have to go. -/
def blockedTree : Files.Tree := ⟨["work"], "/work", [(["work", "rpb.log.1"], .dir)]⟩

def toBlocked : Step :=
  .configure { file := some (.ofText "rpb.log"), maxBytes := .int 10, backupCount := .int 1 }

def blocked : Session := (step { tree := blockedTree } ⟨[], "/home/user"⟩ .null toBlocked).1

def standing : Session := (step { tree := blockedTree } ⟨[], "/home/user"⟩ .null (.configure {})).1

def toNowhere : Step := .configure { file := some (.ofText "~nobody/rpb.log") }

def stranded : Session := (standing.step ⟨[], "/home/user"⟩ .null toNowhere).1

def note : Step :=
  .log .info { logger := "x", level := .int 20, template := .text "one", created := .int 1700000000 }

end Session
end Log
end ReleaseMatch
