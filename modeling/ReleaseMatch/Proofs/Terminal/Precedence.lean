import ReleaseMatch.Proofs.Document.Own
import ReleaseMatch.Proofs.Terminal.Start
set_option autoImplicit false

/-!
# What goes before what

The command line goes before the environment, the environment before the configuration file, and the
file before the defaults; for what a document says itself the command line goes before the document,
and the document before the rest. Each setting has its own sources, and depends on no others.
-/
namespace ReleaseMatch.Terminal

/-! Choices -/

theorem folded_of_chosen {names : List String} {v name : String} (h : chosen? names v = some name) :
    name ∈ names ∧ Text.folded name = Text.folded v :=
  ⟨List.mem_of_find?_eq_some h, by simpa using List.find?_some h⟩

theorem mem_names_of_value? {s : Scan} {name v : String} (h : s.value? name = some v) :
    name ∈ s.names := by
  have hmem := List.mem_of_getLast? h
  obtain ⟨option, hoption, -⟩ := List.mem_map.1 hmem
  rw [List.mem_filter, beq_iff_eq] at hoption
  rw [Scan.names, List.mem_eraseDups]
  exact List.mem_map.2 ⟨option, hoption⟩

theorem chosen_of_checkValues {tree : Files.Tree} {c : CommandSpec} {s : Scan} {o : OptionSpec}
    {option : String} {names : List String} {v : String} (h : checkValues tree c s = .ok ())
    (hoption : c.option? option = some o) (hkind : o.kind = .choice names)
    (hvalue : s.value? option = some v) : ∃ name, chosen? names v = some name := by
  rw [checkValues] at h
  cases hrequest : request? s with
  | some halt => simp [hrequest, throw, throwThe, MonadExceptOf.throw, bind, Except.bind] at h
  | none =>
    rw [hrequest] at h
    have hcheck := forM_eq_ok_iff.1 h _ (mem_names_of_value? hvalue)
    simp only [hoption, hvalue, checkValue, hkind] at hcheck
    cases hchosen : chosen? names v with
    | none => simp [hchosen] at hcheck
    | some name => exact ⟨name, rfl⟩

theorem checkValues_of_readProgram {tree : Files.Tree} {args : List String} {s : Scan}
    (h : readProgram tree args = .ok s) : checkValues tree program s = .ok () := by
  obtain ⟨scanned, -, h⟩ := bind_eq_ok.1 h
  obtain ⟨⟨⟩, hcheck, h⟩ := bind_eq_ok.1 h
  obtain rfl := Except.ok.inj h
  exact hcheck

theorem checkValues_of_readCommand {tree : Files.Tree} {c : Command} {args : List String} {s : Scan}
    (h : readCommand tree c args = .ok s) : checkValues tree c.spec s = .ok () := by
  obtain ⟨scanned, -, h⟩ := bind_eq_ok.1 h
  obtain ⟨⟨⟩, hcheck, h⟩ := bind_eq_ok.1 h
  obtain ⟨⟨⟩, -, h⟩ := bind_eq_ok.1 h
  obtain rfl := Except.ok.inj h
  exact hcheck

/-! The log -/

/-- Each setting of the log says what the first of its own sources says, that of the command line in
front. -/
structure LogFollows (env : Environment) (entries : Toml.Entries) (s : Scan) (log : LogSettings) :
    Prop where
  level : .text log.level = firstOf [(s.value? "--log-level").map fun v => .text (Text.folded v),
    (env.text? "RPB_LOG_LEVEL").map .text, Settings.fileValue? entries "logging" "level"]
    (.text "info")
  format : .text log.format = firstOf [if s.has "--log-json" then some (.text "json") else none,
    (env.text? "RPB_LOG_FORMAT").map .text, Settings.fileValue? entries "logging" "format"]
    (.text "text")
  file : .ok log.file = firstOf [(s.value? "--log-file").map fun v => .ok (some (.ofText v)),
    (env.text? "RPB_LOG_FILE").bind (Settings.pathIn env),
    ((Settings.fileValue? entries "logging" "file").bind Settings.textIn).bind (Settings.pathIn env)]
    (.ok none)
  includeStderr : log.includeStderr =
    firstOf [Settings.fileValue? entries "logging" "include_stderr"] (.bool false)
  maxBytes : log.maxBytes =
    firstOf [Settings.fileValue? entries "logging" "max_bytes"] (.int 10485760)
  backupCount : log.backupCount =
    firstOf [Settings.fileValue? entries "logging" "backup_count"] (.int 5)

theorem firstOf_cons_eq {α : Type} (source : Option α) (sources : List (Option α)) (default : α) :
    firstOf (source :: sources) default = source.getD (firstOf sources default) := by
  cases source <;> rfl

theorem logLevel_eq {tree : Files.Tree} {s : Scan} (h : checkValues tree program s = .ok ()) :
    (logOverride s).level = (s.value? "--log-level").map fun v => .text (Text.folded v) := by
  rw [logOverride]
  cases hvalue : s.value? "--log-level" with
  | none => rfl
  | some v =>
    obtain ⟨name, hname⟩ := chosen_of_checkValues h rfl rfl hvalue
    obtain ⟨hmem, hfolded⟩ := folded_of_chosen hname
    have hsmall : ∀ name ∈ LogSettings.levels, Text.folded name = name := by decide +kernel
    rw [Option.bind_some]
    change (chosen? LogSettings.levels v).map Value.text = _
    rw [show chosen? LogSettings.levels v = some name from hname, Option.map_some, Option.map_some,
      ← hfolded, hsmall name hmem]

theorem logFollows_of_override {env : Environment} {entries : Toml.Entries} {tree : Files.Tree}
    {s : Scan} {base : Settings} {log : LogSettings} (hcheck : checkValues tree program s = .ok ())
    (hbase : base.Follows env entries) (h : base.log.override (logOverride s) = .ok log) :
    LogFollows env entries s log := by
  obtain ⟨hlevel, hformat, -, hfile, hstderr, hmax, hcount⟩ := LogDraft.check_eq_ok_iff.1 h
  have hlevel := (readName_eq_ok_iff.1 hlevel).1
  have hformat := (readName_eq_ok_iff.1 hformat).1
  exact {
    level := by
      rw [firstOf_cons_eq, ← hbase.level, ← logLevel_eq hcheck]
      exact hlevel.symm
    format := by
      rw [firstOf_cons_eq, ← hbase.format]
      exact hformat.symm
    file := by
      rw [firstOf_cons_eq, ← hbase.file, hfile]
      change Except.ok ((s.path? "--log-file").or base.log.file) = _
      rw [Scan.path?]
      cases s.value? "--log-file" <;> rfl
    includeStderr := hstderr.trans hbase.includeStderr
    maxBytes := hmax.trans hbase.maxBytes
    backupCount := hcount.trans hbase.backupCount }

/-! Documents -/

def typedCombinator? (v : String) : Option Combinator :=
  [Combinator.and, .or].find? fun c => Text.folded c.name == Text.folded v

/-- The combinator and the case flags say what the first of their own sources says, which the command
line and the document are among. -/
structure SetFollows (env : Environment) (entries : Toml.Entries) (doc : Document.Entries) (t : Scan)
    (set : Document.ConditionSet) : Prop where
  combinator : some set.combinator = firstOf [(t.value? "--combinator").map typedCombinator?,
    (Document.ownCombinator? doc).map Settings.named,
    (env.text? "RPB_DEFAULT_COMBINATOR").map fun s => Settings.named (.text s),
    (Settings.fileValue? entries "builder" "default_combinator").map Settings.named] (some .and)
  caseSensitive : set.conditions.map (fun c => some c.caseSensitive) =
    (Document.rowsOf doc).map fun row => firstOf [(Document.ownFlag? row).map Document.flagIn,
      (env.text? "RPB_DEFAULT_CASE_SENSITIVE").map fun s => some (.bool (Environment.isYes s)),
      (Settings.fileValue? entries "builder" "default_case_sensitive").map some]
      (some (.bool false))

theorem chosen_eq_map (v : String) :
    chosen? ["AND", "OR"] v = (typedCombinator? v).map Combinator.name := by
  change ([Combinator.and, .or].map Combinator.name).find? _ = _
  rw [List.find?_map]
  rfl

theorem combinatorOf_eq (t : Scan) :
    combinatorOf t = (t.value? "--combinator").bind typedCombinator? := by
  rw [combinatorOf, Option.bind_assoc]
  refine Option.bind_congr fun v _ => ?_
  rw [chosen_eq_map]
  cases typedCombinator? v with
  | none => rfl
  | some c => exact Combinator.ofName?_name c

theorem combinatorOf_getD {tree : Files.Tree} {c : Command} {t : Scan}
    (hc : c = .compile ∨ c = .test) (h : checkValues tree c.spec t = .ok ()) (other : Combinator) :
    some ((combinatorOf t).getD other) =
      ((t.value? "--combinator").map typedCombinator?).getD (some other) := by
  have hoption : c.spec.option? "--combinator" = some combinatorOption := by
    rcases hc with rfl | rfl <;> rfl
  rw [combinatorOf_eq]
  cases hvalue : t.value? "--combinator" with
  | none => rfl
  | some v =>
    obtain ⟨name, hname⟩ := chosen_of_checkValues h hoption rfl hvalue
    rw [chosen_eq_map, Option.map_eq_some_iff] at hname
    obtain ⟨typed, htyped, -⟩ := hname
    rw [Option.bind_some, Option.map_some, htyped]
    rfl

theorem loadSet_eq_ok {tree : Files.Tree} {builder : BuilderSettings} {file : Files.Path}
    {combinator : Option Combinator} {notes : List Event} {set : Document.ConditionSet}
    (h : loadSet tree builder file combinator = .ok (notes, set)) :
    ∃ defaults loaded, builder.defaults = .ok defaults ∧
      (Document.loadFile tree file.text defaults).result = .ok loaded ∧
      set = { loaded with combinator := combinator.getD loaded.combinator } := by
  rw [loadSet] at h
  cases hholds : tree.holds file.text with
  | error f => simp [hholds] at h
  | ok present =>
    cases present with
    | false => simp [hholds] at h
    | true =>
      simp only [hholds] at h
      cases hdefaults : builder.defaults with
      | error u => simp [hdefaults] at h
      | ok defaults =>
        simp only [hdefaults] at h
        cases hresult : (Document.loadFile tree file.text defaults).result with
        | error f => simp [hresult] at h
        | ok loaded =>
          simp only [hresult, Except.ok.injEq, Prod.mk.injEq] at h
          exact ⟨defaults, loaded, rfl, hresult, h.2.symm⟩

theorem defaults_eq_ok {builder : BuilderSettings} {defaults : Document.Defaults}
    (h : builder.defaults = .ok defaults) :
    Combinator.ofName builder.combinator.name = .ok defaults.combinator ∧
      defaults.caseSensitive = builder.caseSensitive := by
  obtain ⟨c, hc, h⟩ := bind_eq_ok.1 h
  obtain rfl := Except.ok.inj h
  exact ⟨hc, rfl⟩

theorem setFollows_of_loadSet {env : Environment} {entries : Toml.Entries} {settings : Settings}
    {tree checked : Files.Tree} {c : Command} {t : Scan} {file : Files.Path} {notes : List Event}
    {set : Document.ConditionSet} (hsettings : settings.Follows env entries)
    (hc : c = .compile ∨ c = .test) (hcheck : checkValues checked c.spec t = .ok ())
    (h : loadSet tree settings.builder file (combinatorOf t) = .ok (notes, set)) :
    ∃ doc, Document.readData tree file.text = .ok (.map doc) ∧ SetFollows env entries doc t set := by
  obtain ⟨defaults, loaded, hdefaults, hloaded, rfl⟩ := loadSet_eq_ok h
  obtain ⟨doc, sheet, hdata, hsheet, rfl⟩ := Document.of_loadFile hloaded
  obtain ⟨hfound, hflag⟩ := defaults_eq_ok hdefaults
  obtain ⟨_, hfound', hcombinator⟩ := hsettings.combinator
  obtain rfl := Except.ok.inj (hfound.symm.trans hfound')
  refine ⟨doc, hdata, ?_, ?_⟩
  · have hloaded := Document.combinator_fill hsheet defaults
    rw [firstOf_cons_eq, firstOf_nil] at hloaded
    rw [firstOf_cons_eq, firstOf_cons_eq, ← hcombinator, combinatorOf_getD hc hcheck, hloaded]
  · refine (Document.caseSensitive_fill hsheet defaults).trans ?_
    refine List.map_congr_left fun row _ => ?_
    rw [hflag]
    rw [firstOf_cons_eq, firstOf_cons_eq, hsettings.caseSensitive, map_firstOf _ _ some, firstOf_nil]
    simp only [List.map_cons, List.map_nil, Option.map_map]
    rfl

/-! Runs -/

section

variable {i : Invocation} {s : Scan} {journal : Log.Journal} {surface : Log.Surface}
  {settings : Settings}

/-- In a run that gets its settings, the log is set up by settings each of which says what the first of
its own sources says; and so does each of what is compiled by a command that loads a document. -/
theorem settings_follow (hread : readProgram i.tree i.args = .ok s)
    (hsetUp : setUp i s { tree := i.tree } = (journal, surface, .ok settings)) :
    ∃ entries, (Settings.loadFile i.tree i.env (s.path? "--config")).result = .ok entries ∧
      ({} : Log.Journal).configure settings.log i.env i.now { tree := i.tree } =
        (journal, surface, none) ∧
      LogFollows i.env entries s settings.log ∧
      ∀ (tree : Files.Tree) (c : Command) (args : List String) (t : Scan) (notes : List Event)
        (set : Document.ConditionSet),
        c = .compile ∨ c = .test → readCommand tree c args = .ok t →
        loadSet tree settings.builder (fileOf t) (combinatorOf t) = .ok (notes, set) →
        ∃ doc, Document.readData tree (fileOf t).text = .ok (.map doc) ∧
          SetFollows i.env entries doc t set := by
  obtain ⟨hsettings, hconfigure⟩ := setUp_eq_ok hsetUp
  obtain ⟨entries, base, hentries, htables, hlog, hbuilder⟩ := settingsOf_eq_ok hsettings
  have hbase := Settings.follows_of_ofTables htables
  refine ⟨entries, hentries, hconfigure,
    logFollows_of_override (checkValues_of_readProgram hread) hbase hlog, ?_⟩
  intro tree c args t notes set hc hcommand hload
  rw [hbuilder] at hload
  exact setFollows_of_loadSet hbase hc (checkValues_of_readCommand hcommand) hload

end

def layered : Invocation where
  args := ["--log-level", "DEBUG", "compile", "f", "--combinator", "or"]
  env := ⟨[("RPB_CONFIG_PATH", "c"), ("RPB_LOG_LEVEL", "error"), ("RPB_LOG_FORMAT", "JSON"),
    ("RPB_DEFAULT_COMBINATOR", "and")], "/home/user"⟩
  tree :=
    let file := "[logging]\nlevel = 'warning'\nformat = 'text'\n[builder]\n"
      ++ "default_case_sensitive = true\n"
    let first := "\x7b\"operator\": \"contains\", \"value\": \"a\", \"caseSensitive\": \"no\"\x7d"
    let second := "\x7b\"operator\": \"contains\", \"value\": \"b\"\x7d"
    let document := "\x7b\"combinator\": \"and\", \"conditions\": [" ++ first ++ ", " ++ second
      ++ "]\x7d"
    ⟨["work"], "/work", [(["work", "f"], .file document.toUTF8.toList),
      (["work", "c"], .file file.toUTF8.toList)]⟩
  stdin := ""
  now := .null

def layeredOptions : Scan := ⟨[("--log-level", "DEBUG")], ["compile", "f", "--combinator", "or"]⟩

def layeredCommand : Scan := ⟨[("--combinator", "or")], ["f"]⟩

def layeredSettings : Settings :=
  (setUp layered layeredOptions { tree := layered.tree }).2.2.toOption.get (by decide +kernel)

theorem layered_follow : ∃ journal surface entries notes set doc,
    setUp layered layeredOptions { tree := layered.tree } = (journal, surface, .ok layeredSettings) ∧
    LogFollows layered.env entries layeredOptions layeredSettings.log ∧
    layeredSettings.log.level = "debug" ∧ layeredSettings.log.format = "JSON" ∧
    loadSet layered.tree layeredSettings.builder (fileOf layeredCommand)
      (combinatorOf layeredCommand) = .ok (notes, set) ∧
    SetFollows layered.env entries doc layeredCommand set ∧
    (run layered).screen.stdout = "(?i)a|b\n" := by
  have hsettings : (setUp layered layeredOptions { tree := layered.tree }).2.2 =
      .ok layeredSettings := toOption_eq_some.1 (Option.some_get _).symm
  have hsetUp : setUp layered layeredOptions { tree := layered.tree } =
      (_, _, .ok layeredSettings) := Prod.ext rfl (Prod.ext rfl hsettings)
  have hread : readProgram layered.tree layered.args = .ok layeredOptions := by decide +kernel
  obtain ⟨⟨notes, set⟩, hload⟩ := exists_ok_of_isSome
    (x := loadSet layered.tree layeredSettings.builder (fileOf layeredCommand)
      (combinatorOf layeredCommand)) (by decide +kernel)
  obtain ⟨entries, -, -, hlog, hset⟩ := settings_follow hread hsetUp
  obtain ⟨doc, -, hdoc⟩ := hset layered.tree .compile ["f", "--combinator", "or"] layeredCommand
    notes set (.inl rfl) (by decide +kernel) hload
  exact ⟨_, _, entries, notes, set, doc, hsetUp, hlog, by decide +kernel, by decide +kernel, hload,
    hdoc, by decide +kernel⟩

end ReleaseMatch.Terminal
