import ReleaseMatch.Proofs.Document.Members
import ReleaseMatch.Proofs.Log.Session
set_option autoImplicit false

/-!
# Names that are accepted

Names of levels and formats are accepted by what they are lowered to, and looked up by what they are
folded to; names of combinators are accepted, stored and looked up in capitals. Whatever is accepted is
found: no level and no format is taken for another one, and there is always a combinator.
-/
namespace ReleaseMatch

variable {env : Environment} {now : Value}

/-! Levels and formats -/

theorem Level.eq_of_lowered_name {l k : Level} (h : Text.lowered l.name = Text.lowered k.name) :
    l = k := by
  revert h
  cases l <;> cases k <;> decide +kernel

theorem Level.ofName_eq_iff {s : String} (h : Text.lowered s ∈ LogSettings.levels) (l : Level) :
    ofName s = l ↔ Text.lowered l.name = Text.lowered s := by
  have hname := lowered_name_ofName h
  constructor
  · rintro rfl
    exact hname
  · intro hl
    exact eq_of_lowered_name (hname.trans hl.symm)

/-! Combinators -/

theorem Combinator.name_inj {c d : Combinator} : c.name = d.name ↔ c = d := by
  cases c <;> cases d <;> decide

theorem Combinator.ofName_eq_ok_iff {name : String} {c : Combinator} :
    ofName name = .ok c ↔ name = c.name := by
  rw [← ofName?_eq_some_iff, ofName]
  cases ofName? name <;> simp

/-! Settings -/

namespace Settings

variable {entries : Toml.Entries} {settings : Settings} {o : LogOverride} {log : LogSettings}

/-- What becomes of the names in settings, with others in front of them. The log gets exactly the level of
the name, in its sinks too, and their format is that of JSON exactly if the name says so. Of the combinator
the capitals are stored, and when a set is loaded they are found, as the one that they say. -/
structure Understood (env : Environment) (entries : Toml.Entries) (settings : Settings) (o : LogOverride)
    (log : LogSettings) : Prop where
  level : .text log.level = o.level.getD (firstOf [(env.text? "RPB_LOG_LEVEL").map .text,
    fileValue? entries "logging" "level"] (.text "info"))
  format : .text log.format = o.format.getD (firstOf [(env.text? "RPB_LOG_FORMAT").map .text,
    fileValue? entries "logging" "format"] (.text "text"))
  applied (j : Log.Journal) (now : Value) (out : Log.Surface) (l : Level) :
    (j.configure log env now out).1.level = l ↔ Text.lowered l.name = Text.lowered log.level
  formatter : Log.Format.ofName log.format = .json ↔ Text.lowered log.format = "json"
  sinks (j : Log.Journal) (now : Value) (out : Log.Surface) :
    ∀ s ∈ (j.configure log env now out).1.sinks,
      s.level = (j.configure log env now out).1.level ∧ s.format = Log.Format.ofName log.format
  combinator : ∃ inner s, table entries "builder" = .ok inner ∧
    .text s = firstOf [(env.text? "RPB_DEFAULT_COMBINATOR").map .text,
      fileValue? entries "builder" "default_combinator"] (.text "AND") ∧
    (builderDraft env inner).name = .ok (Text.uppered s) ∧
    settings.builder.combinator.name = Text.uppered s ∧
    ∃ c, settings.builder.defaults = .ok ⟨c, settings.builder.caseSensitive⟩ ∧
      ∀ d : Combinator, c = d ↔ Text.uppered s = d.name

theorem exists_combinator (h : ofTables env entries = .ok settings) :
    ∃ inner s, table entries "builder" = .ok inner ∧
      .text s = firstOf [(env.text? "RPB_DEFAULT_COMBINATOR").map .text,
        fileValue? entries "builder" "default_combinator"] (.text "AND") ∧
      (builderDraft env inner).name = .ok (Text.uppered s) ∧
      settings.builder.combinator.name = Text.uppered s ∧ Text.uppered s ∈ Combinator.names := by
  obtain ⟨logEntries, -, h⟩ := bind_eq_ok.1 h
  obtain ⟨draft, -, h⟩ := bind_eq_ok.1 h
  obtain ⟨checked, -, h⟩ := bind_eq_ok.1 h
  obtain ⟨inner, hinner, h⟩ := bind_eq_ok.1 h
  obtain ⟨builder, hbuilder, h⟩ := bind_eq_ok.1 h
  obtain rfl := Except.ok.inj h
  have htable := mapError_eq_ok_iff.1 hinner
  have hname := (builderCheck_eq_ok_iff.1 (mapError_eq_ok_iff.1 hbuilder)).1
  obtain ⟨s, hs, hcapitals, hin⟩ := builderName_eq_ok_iff.1 hname
  rw [hcapitals] at hname hin
  have hsource : (builderDraft env inner).combinator = firstOf [(env.text? "RPB_DEFAULT_COMBINATOR").map
      .text, fileValue? entries "builder" "default_combinator"] (.text "AND") :=
    choose_eq_firstOf htable ..
  exact ⟨inner, s, htable, hs.symm.trans hsource, hname, hcapitals, hin⟩

theorem understood_of_override (hbase : ofTables env entries = .ok settings)
    (h : settings.log.override o = .ok log) : Understood env entries settings o log := by
  have hfollows := follows_of_ofTables hbase
  obtain ⟨hlevel, hformat⟩ := LogDraft.names_of_check h
  obtain ⟨hgivenLevel, hgivenFormat, -⟩ := LogDraft.check_eq_ok_iff.1 h
  have hsetUp (j : Log.Journal) (now : Value) (out : Log.Surface) :=
    j.setUp_configure log env now out
  exact {
    level := by
      rw [← hfollows.level]
      exact (readName_eq_ok_iff.1 hgivenLevel).1.symm
    format := by
      rw [← hfollows.format]
      exact (readName_eq_ok_iff.1 hgivenFormat).1.symm
    applied := fun j now out l => by
      rw [(hsetUp j now out).level_eq]
      exact Level.ofName_eq_iff hlevel l
    formatter := Log.Format.ofName_eq_json_iff hformat
    sinks := fun j now out s hs => by
      rw [(hsetUp j now out).level_eq]
      obtain ⟨hlevel, hformat, -⟩ := (hsetUp j now out).of_mem_sinks hs
      exact ⟨hlevel, hformat⟩
    combinator := by
      obtain ⟨inner, s, htable, hsource, hname, hcapitals, hin⟩ := exists_combinator hbase
      obtain ⟨c, hc, -⟩ := exists_combinator_of_mem hin
      refine ⟨inner, s, htable, hsource, hname, hcapitals, c, ?_, fun d => ?_⟩
      · rw [BuilderSettings.defaults, hcapitals, hc]
        rfl
      · rw [Combinator.ofName_eq_ok_iff.1 hc, Combinator.name_inj] }

/-- Whatever names the environment, the file and what goes before them hold: once they are accepted, they
are understood. -/
theorem names_understood (tree : Files.Tree) (env : Environment) (path : Option Files.Path)
    (o : LogOverride) (hload : (load tree env path).result = .ok settings)
    (hoverride : settings.log.override o = .ok log) :
    ∃ entries, (loadFile tree env path).result = .ok entries ∧
      Understood env entries settings o log := by
  obtain ⟨entries, hentries, hbase⟩ := bind_eq_ok.1 hload
  exact ⟨entries, hentries, understood_of_override hbase hoverride⟩

def mixedEnvironment : Environment :=
  ⟨[("RPB_CONFIG_PATH", "c"), ("RPB_LOG_LEVEL", "wArNiNg")], "/home/user"⟩

def mixedTree : Files.Tree :=
  let file := "[logging]\nformat = 'Text'\n[builder]\ndefault_combinator = 'oR'\n"
  ⟨["work"], "/work", [(["work", "c"], .file file.toUTF8.toList)]⟩

def mixedOverride : LogOverride := { format := some (.text "jSoN") }

def mixedSettings : Settings :=
  (load mixedTree mixedEnvironment none).result.toOption.get (by decide +kernel)

theorem mixedNames_understood : ∃ entries log,
    (load mixedTree mixedEnvironment none).result = .ok mixedSettings ∧
    mixedSettings.log.override mixedOverride = .ok log ∧ log.level = "wArNiNg" ∧
    log.format = "jSoN" ∧ mixedSettings.builder.combinator.name = "OR" ∧
    Understood mixedEnvironment entries mixedSettings mixedOverride log := by
  have hload : (load mixedTree mixedEnvironment none).result = .ok mixedSettings :=
    toOption_eq_some.1 (Option.some_get _).symm
  obtain ⟨log, hlog⟩ := exists_ok_of_isSome (x := mixedSettings.log.override mixedOverride)
    (by decide +kernel)
  obtain ⟨entries, -, h⟩ := names_understood mixedTree mixedEnvironment none mixedOverride hload hlog
  have hlevel : (mixedSettings.log.override mixedOverride).map (·.level) = .ok "wArNiNg" := by
    decide +kernel
  have hformat : (mixedSettings.log.override mixedOverride).map (·.format) = .ok "jSoN" := by
    decide +kernel
  rw [hlog] at hlevel hformat
  exact ⟨entries, log, hload, hlog, Except.ok.inj hlevel, Except.ok.inj hformat, by decide +kernel, h⟩

end Settings
end ReleaseMatch
