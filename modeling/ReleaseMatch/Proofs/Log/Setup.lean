import ReleaseMatch.Log.Session
import ReleaseMatch.Proofs.Files.Paths
import ReleaseMatch.Proofs.Log.Rotation
import ReleaseMatch.Proofs.Settings.Sources
set_option autoImplicit false

/-!
# Setting up the log

Settings that are refused leave everything as it is. Settings that are accepted set up the log, with the
standard error stream in place of a file that cannot be opened; unless the path of the file breaks this
off, because its home directory is not known or because there is a null character in it. By then the
log has its new level and has lost its sinks.
-/
namespace ReleaseMatch.Log

variable {settings : LogSettings} {env : Environment} {now : Value}

/-- What breaks off the opening of a file at a path, where other faults leave the file out: there is no
home directory to put in, or there is a null character in the path of the directory, or in that of the
file when the directory is there. -/
inductive Breaks (env : Environment) (tree : Files.Tree) (path : Files.Path) : Prop
  | home {f : NoHome} (h : path.expandHome env.home = .error f)
  | directory {p : Files.Path} (h : path.expandHome env.home = .ok p)
      (hnull : Files.HasNull p.parent.text)
  | file {p : Files.Path} (h : path.expandHome env.home = .ok p)
      (hmade : (tree.makeDirs p.parent.names.length p.parent).2 = none)
      (hnull : Files.HasNull (tree.absoluteText p))

theorem breaks_iff_of_expandHome {tree : Files.Tree} {path p : Files.Path}
    (h : path.expandHome env.home = .ok p) : Breaks env tree path ↔ Files.HasNull p.parent.text ∨
      (tree.makeDirs p.parent.names.length p.parent).2 = none ∧
        Files.HasNull (tree.absoluteText p) := by
  constructor
  · rintro (hfault | ⟨h', hnull⟩ | ⟨h', hmade, hnull⟩)
    · rw [h] at hfault
      exact absurd hfault (by simp)
    · obtain rfl := Except.ok.inj (h.symm.trans h')
      exact .inl hnull
    · obtain rfl := Except.ok.inj (h.symm.trans h')
      exact .inr ⟨hmade, hnull⟩
  · rintro (hnull | ⟨hmade, hnull⟩)
    · exact .directory h hnull
    · exact .file h hmade hnull

theorem Opened.ofFault_eq_broken_iff {f : Files.Fault} :
    (∃ g, Opened.ofFault f = .broken g) ↔ f = .nullCharacter := by
  cases f with
  | nullCharacter => exact iff_of_true ⟨_, rfl⟩ rfl
  | system e path => simp [ofFault]

theorem openFile_eq_broken_iff (settings : LogSettings) (tree : Files.Tree) (path : Files.Path) :
    (∃ f, (openFile settings env path tree).2 = .broken f) ↔ Breaks env tree path := by
  rw [openFile, Environment.expand]
  cases hexpand : path.expandHome env.home with
  | error f => exact iff_of_true ⟨_, rfl⟩ (.home hexpand)
  | ok p =>
    rw [breaks_iff_of_expandHome hexpand]
    dsimp only
    have hfault := (tree.madeDirs p.parent.names.length p.parent).fault
    have hshown := tree.absoluteText_makeDirs p.parent.names.length p.parent p
    generalize tree.makeDirs p.parent.names.length p.parent = r at hfault hshown
    obtain ⟨t, fault⟩ := r
    cases fault with
    | some f =>
      rw [Option.some.injEq] at hfault
      simpa [Opened.ofFault_eq_broken_iff] using hfault
    | none =>
      have hparent : ¬Files.HasNull p.parent.text := fun hnull => absurd (hfault.2 hnull) (by simp)
      simp only [hparent, true_and, false_or]
      rw [← hshown, ← Files.Tree.onPath_eq_nullCharacter_iff]
      change _ ↔ t.openEnd (t.absoluteNames p) (t.absoluteText p) = _
      cases t.openEnd (t.absoluteNames p) (t.absoluteText p) with
      | ok opened => simp
      | error f =>
        rw [Except.error.injEq]
        exact Opened.ofFault_eq_broken_iff

structure FileTarget.IsAt (t : FileTarget) (settings : LogSettings) (tree : Files.Tree)
    (p : Files.Path) : Prop where
  location : t.location = tree.absoluteNames p
  path : t.path = tree.absoluteText p
  maxBytes : t.maxBytes = settings.maxBytes
  backupCount : t.backupCount = settings.backupCount

theorem isOpen_of_opensEnd {tree tree' : Files.Tree} {p : Files.Path} {t : FileTarget}
    (h : tree.OpensEnd p t.path t.location tree') : t.IsOpen tree' where
  file := h.file
  short := by
    have hname : t.name.utf8ByteSize ≤ Files.Tree.maxNameBytes := by
      rw [FileTarget.name]
      cases hlast : t.location.getLast? with
      | none => decide
      | some name => exact h.shortNames name (List.mem_of_getLast? hlast)
    rw [FileTarget.isTooLong, Bool.or_eq_false_iff, decide_eq_false_iff_not, decide_eq_false_iff_not]
    exact ⟨Nat.not_lt.2 hname, Nat.not_lt.2 h.shortPath⟩

theorem isAt_of_openFile {tree : Files.Tree} {path : Files.Path} {t : FileTarget}
    (h : (openFile settings env path tree).2 = .target t) : t.IsOpen (openFile settings env path tree).1 ∧
      ∃ p, path.expandHome env.home = .ok p ∧ t.IsAt settings tree p := by
  rw [openFile, Environment.expand] at h ⊢
  cases hexpand : path.expandHome env.home with
  | error f =>
    rw [hexpand] at h
    exact absurd h (by simp)
  | ok p =>
    rw [hexpand] at h
    dsimp only at h ⊢
    have hshown := tree.absoluteText_makeDirs p.parent.names.length p.parent p
    have hnames := tree.absoluteNames_makeDirs p.parent.names.length p.parent p
    generalize tree.makeDirs p.parent.names.length p.parent = r at h hshown hnames
    obtain ⟨above, fault⟩ := r
    cases fault with
    | some f =>
      cases f <;> exact absurd h (by simp [Opened.ofFault])
    | none =>
      dsimp only at h ⊢
      cases hopen : above.openEnd (above.absoluteNames p) (above.absoluteText p) with
      | error f =>
        rw [hopen] at h
        cases f <;> exact absurd h (by simp [Opened.ofFault])
      | ok opened =>
        rw [hopen] at h
        obtain rfl := Opened.target.inj h
        have hends := Files.Tree.opensEnd_of_openEnd hopen
        exact ⟨isOpen_of_opensEnd hends, p, rfl, hends.location.trans hnames, hshown, rfl, rfl⟩

/-! Setting up a journal -/

/-- How setting up a journal can go, with what it comes to: there is no file, or one that is open, or one
that is not available, or the path breaks it off. -/
inductive SetUp (j : Journal) (settings : LogSettings) (env : Environment) (tree : Files.Tree) :
    Journal → Option SetupFault → Prop
  | plain (hfile : settings.file = none) : SetUp j settings env tree
      { j with level := Level.ofName settings.level, sinks := Journal.sinksFor settings none } none
  | opened {path : Files.Path} {t : FileTarget} (hfile : settings.file = some path)
      (hopen : (openFile settings env path tree).2 = .target t) : SetUp j settings env tree
      { j with level := Level.ofName settings.level, sinks := Journal.sinksFor settings (some t) } none
  | unavailable {path : Files.Path} {f : Files.Fault} (hfile : settings.file = some path)
      (hopen : (openFile settings env path tree).2 = .unavailable f) : SetUp j settings env tree
      { j with level := Level.ofName settings.level, sinks := Journal.sinksFor settings none } none
  | broken {path : Files.Path} {f : SetupFault} (hfile : settings.file = some path)
      (hopen : (openFile settings env path tree).2 = .broken f) : SetUp j settings env tree
      { j with level := Level.ofName settings.level, sinks := [] } (some f)

theorem Journal.setUp_configure (j : Journal) (settings : LogSettings) (env : Environment) (now : Value)
    (out : Surface) : SetUp j settings env out.tree (j.configure settings env now out).1
      (j.configure settings env now out).2.2 := by
  rw [configure]
  cases hfile : settings.file with
  | none => exact .plain hfile
  | some path =>
    dsimp only
    cases hopen : openFile settings env path out.tree with
    | mk tree opened =>
      have hopened : (openFile settings env path out.tree).2 = opened := by rw [hopen]
      cases opened with
      | target t => exact .opened hfile hopened
      | unavailable f => exact .unavailable hfile hopened
      | broken f => exact .broken hfile hopened

theorem Journal.of_mem_sinksFor {settings : LogSettings} {file : Option FileTarget} {s : Sink}
    (h : s ∈ sinksFor settings file) : s.level = Level.ofName settings.level ∧
      s.format = Format.ofName settings.format ∧ ∀ t, s.target = .file t → file = some t := by
  unfold sinksFor at h
  rcases List.mem_append.1 h with h | h
  · cases file with
    | none => exact absurd h List.not_mem_nil
    | some t =>
      obtain rfl := List.mem_singleton.1 h
      exact ⟨rfl, rfl, fun t' ht => congrArg some (Target.file.inj ht)⟩
  · split at h
    · obtain rfl := List.mem_singleton.1 h
      exact ⟨rfl, rfl, fun t ht => absurd ht (by simp)⟩
    · exact absurd h List.not_mem_nil

theorem Journal.isOpen_configure (j : Journal) (settings : LogSettings) (env : Environment) (now : Value)
    (out : Surface) {s : Sink} (hs : s ∈ (j.configure settings env now out).1.sinks) {t : FileTarget}
    (ht : s.target = .file t) : t.IsOpen (j.configure settings env now out).2.1.tree := by
  have hnone {s : Sink} (hs : s ∈ sinksFor settings none) (ht : s.target = .file t) : False :=
    absurd ((of_mem_sinksFor hs).2.2 t ht) (by simp)
  rw [configure] at hs ⊢
  cases hfile : settings.file with
  | none =>
    rw [hfile] at hs
    exact (hnone hs ht).elim
  | some path =>
    rw [hfile] at hs
    dsimp only at hs ⊢
    cases hopen : openFile settings env path out.tree with
    | mk tree opened =>
      rw [hopen] at hs
      cases opened with
      | target t' =>
        obtain rfl := Option.some.inj ((of_mem_sinksFor hs).2.2 t ht)
        obtain ⟨hisOpen, -⟩ := isAt_of_openFile (congrArg Prod.snd hopen)
        rwa [hopen] at hisOpen
      | unavailable f => exact (hnone hs ht).elim
      | broken f => exact absurd hs List.not_mem_nil

/-- However setting up a log goes, its sinks have the level, the format and the limits of the settings. -/
theorem SetUp.of_mem_sinks {j j' : Journal} {settings : LogSettings} {tree : Files.Tree}
    {fault : Option SetupFault} (h : SetUp j settings env tree j' fault) {s : Sink} (hs : s ∈ j'.sinks) :
    s.level = Level.ofName settings.level ∧ s.format = Format.ofName settings.format ∧
      ∀ t, s.target = .file t →
        t.maxBytes = settings.maxBytes ∧ t.backupCount = settings.backupCount := by
  cases h with
  | plain =>
    obtain ⟨hlevel, hformat, hfile⟩ := Journal.of_mem_sinksFor hs
    exact ⟨hlevel, hformat, fun t ht => absurd (hfile t ht) (by simp)⟩
  | opened hpath hopen =>
    obtain ⟨hlevel, hformat, hfile⟩ := Journal.of_mem_sinksFor hs
    refine ⟨hlevel, hformat, fun t ht => ?_⟩
    obtain rfl := Option.some.inj (hfile t ht)
    obtain ⟨-, p, -, hat⟩ := isAt_of_openFile hopen
    exact ⟨hat.maxBytes, hat.backupCount⟩
  | unavailable =>
    obtain ⟨hlevel, hformat, hfile⟩ := Journal.of_mem_sinksFor hs
    exact ⟨hlevel, hformat, fun t ht => absurd (hfile t ht) (by simp)⟩
  | broken => exact absurd hs List.not_mem_nil

theorem Journal.sinksFor_none (settings : LogSettings) : sinksFor settings none =
    [⟨.stderr, Level.ofName settings.level, Format.ofName settings.format⟩] := by
  simp [sinksFor]

namespace SetUp

variable {j j' : Journal} {tree : Files.Tree} {fault : Option SetupFault}

theorem level_eq (h : SetUp j settings env tree j' fault) :
    j'.level = Level.ofName settings.level := by
  cases h <;> rfl

theorem silent_eq (h : SetUp j settings env tree j' fault) : j'.silent = j.silent := by
  cases h <;> rfl

/-- A fault comes from a path that breaks it off, and leaves no sinks. -/
theorem of_fault {f : SetupFault} (h : SetUp j settings env tree j' (some f)) :
    j'.sinks = [] ∧ ∃ path, settings.file = some path ∧ Breaks env tree path := by
  cases h with
  | broken hfile hopen => exact ⟨rfl, _, hfile, (openFile_eq_broken_iff settings tree _).1 ⟨f, hopen⟩⟩

theorem of_breaks {path : Files.Path} (h : SetUp j settings env tree j' fault)
    (hfile : settings.file = some path) (hbreaks : Breaks env tree path) : ∃ f, fault = some f := by
  obtain ⟨g, hbroken⟩ := (openFile_eq_broken_iff settings tree path).2 hbreaks
  -- The file that the log is set up with is the one that is broken.
  have hsame {path' : Files.Path} (hfile' : settings.file = some path') :
      (openFile settings env path' tree).2 = .broken g := by
    obtain rfl := Option.some.inj (hfile.symm.trans hfile')
    exact hbroken
  cases h with
  | plain hfile' => exact absurd (hfile.symm.trans hfile') (by simp)
  | opened hfile' hopen => exact absurd ((hsame hfile').symm.trans hopen) (by simp)
  | unavailable hfile' hopen => exact absurd ((hsame hfile').symm.trans hopen) (by simp)
  | broken hfile' hopen => exact ⟨_, rfl⟩

theorem sinks_of_not_opened {path : Files.Path} (h : SetUp j settings env tree j' none)
    (hfile : settings.file = some path) (hopen : ∀ t, (openFile settings env path tree).2 ≠ .target t) :
    j'.sinks = [⟨.stderr, Level.ofName settings.level, Format.ofName settings.format⟩] := by
  rw [← Journal.sinksFor_none]
  cases h with
  | opened hfile' hopen' =>
    obtain rfl := Option.some.inj (hfile.symm.trans hfile')
    exact absurd hopen' (hopen _)
  | _ => rfl

end SetUp

/-! Steps -/

/-- The settings that a step sets up the log with, if they are accepted. -/
def Step.settings? : Step → Option (Except SettingFault LogSettings)
  | .configure draft => some draft.check
  | .override base o => some (base.check.bind (·.override o))
  | .silence | .log .. => none

namespace Session

variable {s : Session} {st : Step}

theorem step_of_refused {f : SettingFault} (h : st.settings? = some (.error f)) :
    s.step env now st = (s, { fault := some (.setting f) }) := by
  cases st with
  | configure draft =>
    rw [step, Option.some.inj h]
    rfl
  | override base o =>
    rw [step, Option.some.inj h]
    rfl
  | _ => exact absurd h (by simp [Step.settings?])

theorem step_of_accepted (s : Session) (env : Environment) (now : Value)
    (h : st.settings? = some (.ok settings)) : s.step env now st = s.apply env now (.ok settings) := by
  cases st with
  | configure draft => rw [step, Option.some.inj h]
  | override base o => rw [step, Option.some.inj h]
  | _ => exact absurd h (by simp [Step.settings?])

theorem setUp_of_accepted (s : Session) (env : Environment) (now : Value)
    (h : st.settings? = some (.ok settings)) :
    ∃ f, SetUp s.journal settings env s.tree (s.step env now st).1.journal f ∧
      (s.step env now st).2.fault = f.map .setup := by
  rw [step_of_accepted s env now h]
  exact ⟨_, s.journal.setUp_configure settings env now { tree := s.tree }, rfl⟩

theorem isOpen_of_accepted (h : st.settings? = some (.ok settings)) {sink : Sink}
    (hsink : sink ∈ (s.step env now st).1.journal.sinks) {t : FileTarget} (ht : sink.target = .file t) :
    t.IsOpen (s.step env now st).1.tree := by
  rw [step_of_accepted s env now h] at hsink ⊢
  exact s.journal.isOpen_configure settings env now { tree := s.tree } hsink ht

theorem journal_of_idle (h : st.settings? = none) :
    (s.step env now st).1.journal.level = s.journal.level ∧
      (s.step env now st).1.journal.sinks = s.journal.sinks := by
  cases st with
  | silence =>
    rw [step, Journal.silence]
    split <;> exact ⟨rfl, rfl⟩
  | log level r => exact ⟨rfl, rfl⟩
  | _ => exact absurd h (by simp [Step.settings?])

/-- A step that ends in a fault leaves level and sinks as they were, and a file that cannot be opened is
no fault: the standard error stream takes its place. -/
structure SetsUpSafely (s : Session) (env : Environment) (now : Value) (st : Step) : Prop where
  kept : (s.step env now st).2.fault.isSome = true →
    (s.step env now st).1.journal.level = s.journal.level ∧
      (s.step env now st).1.journal.sinks = s.journal.sinks
  replaced (settings : LogSettings) (path : Files.Path) :
    st.settings? = some (.ok settings) → settings.file = some path →
    (∀ t, (openFile settings env path s.tree).2 ≠ .target t) →
    (s.step env now st).2.fault = none ∧ (s.step env now st).1.journal.sinks =
      [⟨.stderr, Level.ofName settings.level, Format.ofName settings.format⟩]

def BreaksOff (s : Session) (env : Environment) (st : Step) : Prop :=
  ∃ settings path, st.settings? = some (.ok settings) ∧ settings.file = some path ∧
    Breaks env s.tree path

/-- What is left of a log whose setting up was broken off: the new level, and no sinks. -/
structure LeftBare (s : Session) (env : Environment) (now : Value) (st : Step) : Prop where
  fault : ∃ f, (s.step env now st).2.fault = some (.setup f)
  level (settings : LogSettings) : st.settings? = some (.ok settings) →
    (s.step env now st).1.journal.level = Level.ofName settings.level
  sinks : (s.step env now st).1.journal.sinks = []

theorem leftBare_of_breaksOff (now : Value) (h : s.BreaksOff env st) : s.LeftBare env now st := by
  obtain ⟨settings, path, hsettings, hfile, hbreaks⟩ := h
  obtain ⟨fault, hsetUp, hfault⟩ := setUp_of_accepted s env now hsettings
  obtain ⟨f, rfl⟩ := hsetUp.of_breaks hfile hbreaks
  refine ⟨⟨f, hfault⟩, fun settings' hsettings' => ?_, hsetUp.of_fault.1⟩
  obtain rfl := Except.ok.inj (Option.some.inj (hsettings.symm.trans hsettings'))
  exact hsetUp.level_eq

theorem fault_eq_none_of_not_breaksOff (now : Value) (h : ¬s.BreaksOff env st)
    (hsettings : st.settings? = some (.ok settings)) :
    SetUp s.journal settings env s.tree (s.step env now st).1.journal none ∧
      (s.step env now st).2.fault = none := by
  obtain ⟨fault, hsetUp, hfault⟩ := setUp_of_accepted s env now hsettings
  cases fault with
  | none => exact ⟨hsetUp, hfault⟩
  | some f =>
    obtain ⟨-, path, hfile, hbreaks⟩ := hsetUp.of_fault
    exact absurd ⟨settings, path, hsettings, hfile, hbreaks⟩ h

theorem setsUpSafely_of_not_breaksOff (h : ¬s.BreaksOff env st) : s.SetsUpSafely env now st where
  kept hfault := by
    cases hsettings : st.settings? with
    | none => exact journal_of_idle hsettings
    | some r =>
      cases r with
      | error f =>
        rw [step_of_refused hsettings]
        exact ⟨rfl, rfl⟩
      | ok settings =>
        rw [(fault_eq_none_of_not_breaksOff now h hsettings).2] at hfault
        exact absurd hfault (by simp)
  replaced settings path hsettings hfile hopen := by
    obtain ⟨hsetUp, hfault⟩ := fault_eq_none_of_not_breaksOff now h hsettings
    exact ⟨hfault, hsetUp.sinks_of_not_opened hfile hopen⟩

theorem not_setsUpSafely_of_breaksOff (h : s.BreaksOff env st) : ¬s.SetsUpSafely env now st := by
  intro hsafe
  -- A path that breaks it off cannot be opened, so the standard error stream should take its place.
  obtain ⟨f, hfault⟩ := (leftBare_of_breaksOff now h).fault
  obtain ⟨settings, path, hsettings, hfile, hbreaks⟩ := h
  obtain ⟨g, hbroken⟩ := (openFile_eq_broken_iff settings s.tree path).2 hbreaks
  have hnone := (hsafe.replaced settings path hsettings hfile (by simp [hbroken])).1
  rw [hfault] at hnone
  exact absurd hnone (by simp)

/-- Settings that are refused change nothing at all; settings that are accepted set up the log safely,
unless the path of its file breaks this off, and then the log has lost its sinks. -/
theorem setsUpSafely_iff (s : Session) (env : Environment) (now : Value) (st : Step) :
    (∀ f, st.settings? = some (.error f) →
      s.step env now st = (s, { fault := some (.setting f) })) ∧
    (s.SetsUpSafely env now st ↔ ¬s.BreaksOff env st) ∧
    (s.BreaksOff env st → s.LeftBare env now st) :=
  ⟨fun _ h => step_of_refused h,
    ⟨fun hsafe h => not_setsUpSafely_of_breaksOff h hsafe, setsUpSafely_of_not_breaksOff⟩,
    leftBare_of_breaksOff now⟩

def unknownHome : LogDraft where
  level := .text "debug"
  file := some (.ofText "~nobody/rpb.log")

def onStderr : Session :=
  (Session.step { tree := ⟨["work"], "/work", []⟩ } ⟨[], "/home/user"⟩ .null (.configure {})).1

theorem unknownHome_leftBare :
    onStderr.BreaksOff ⟨[], "/home/user"⟩ (.configure unknownHome) ∧
    onStderr.LeftBare ⟨[], "/home/user"⟩ .null (.configure unknownHome) := by
  obtain ⟨settings, hcheck⟩ := exists_ok_of_isSome (x := unknownHome.check) (by decide +kernel)
  have hfile : settings.file = some (.ofText "~nobody/rpb.log") :=
    (LogDraft.check_eq_ok_iff.1 hcheck).2.2.2.1
  have hbreaks : onStderr.BreaksOff ⟨[], "/home/user"⟩ (.configure unknownHome) :=
    ⟨settings, _, congrArg some hcheck, hfile, .home (f := .unknown) rfl⟩
  exact ⟨hbreaks, (setsUpSafely_iff onStderr _ .null _).2.2 hbreaks⟩

theorem unknownHome_loses_sinks :
    (onStderr.step ⟨[], "/home/user"⟩ .null (.configure unknownHome)).2.fault =
      some (.setup (.noHome .unknown)) ∧
    onStderr.journal.level = .info ∧ onStderr.journal.sinks.length = 1 ∧
    (onStderr.step ⟨[], "/home/user"⟩ .null (.configure unknownHome)).1.journal.level = .debug ∧
    (onStderr.step ⟨[], "/home/user"⟩ .null (.configure unknownHome)).1.journal.sinks.length = 0 := by
  decide +kernel

end Session
end ReleaseMatch.Log
