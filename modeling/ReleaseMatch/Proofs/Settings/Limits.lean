import ReleaseMatch.Proofs.Log.Setup
import ReleaseMatch.Proofs.Number.Order
import ReleaseMatch.Proofs.Settings.Verdict
set_option autoImplicit false

/-!
# Limits that are accepted

Limits are refused if they are below the least one. Whatever is accepted is a number and at least that, with
one exception: what is not a number is below none. A file with such a limit is never put aside, and neither
is one whose limit is infinite.
-/
namespace ReleaseMatch

open Number

/-! Limits -/

inductive Value.AtLeast (n : ℤ) : Value → Prop
  | bool {b : Bool} (h : n ≤ if b then 1 else 0) : AtLeast n (.bool b)
  | int {k : ℤ} (h : n ≤ k) : AtLeast n (.int k)
  | finite {negative : Bool} {m : ℕ} {e : ℤ} (h : (n : ℚ) ≤ Binary64.rat negative m e) :
      AtLeast n (.float (.finite negative m e))
  | infinite : AtLeast n (.float (.infinite false))

def Value.isNan : Value → Bool
  | .float .nan => true
  | _ => false

theorem Value.isNan_iff {v : Value} : v.isNan = true ↔ v = .float .nan := by
  unfold isNan
  split <;> simp_all

theorem Value.atLeast_iff_of_isBelow {v : Value} {n : ℤ} (h : v.isBelow n = .ok false) :
    v.AtLeast n ↔ v ≠ .float .nan := by
  cases v with
  | bool b =>
    have hle : n ≤ if b then 1 else 0 := by simpa [isBelow] using h
    exact iff_of_true (.bool hle) (by simp)
  | int k =>
    have hle : n ≤ k := by simpa [isBelow] using h
    exact iff_of_true (.int hle) (by simp)
  | float x =>
    have hx : x.ltInt n = false := Except.ok.inj h
    cases x with
    | finite negative m e =>
      have hle : (n : ℚ) ≤ Binary64.rat negative m e := by
        rw [← not_lt, ← Binary64.ltInt_finite, hx]
        exact Bool.false_ne_true
      exact iff_of_true (.finite hle) (by simp)
    | infinite negative =>
      obtain rfl : negative = false := hx
      exact iff_of_true .infinite (by simp)
    | nan => exact iff_of_false nofun (by simp)
  | _ => simp [isBelow] at h

namespace Log.FileTarget

variable {t : FileTarget}

/-- From some size on, the file is full. -/
def IsLimited (t : FileTarget) : Prop := ∃ limit, 0 < limit ∧ ∀ size, t.isFull size = true ↔ limit ≤ size

theorem isLimited_iff_of_isBelow (h : t.maxBytes.isBelow 1 = .ok false) :
    t.IsLimited ↔ t.maxBytes ≠ .float .nan ∧ t.maxBytes ≠ .float (.infinite false) := by
  unfold IsLimited isFull
  cases hmax : t.maxBytes with
  | bool b =>
    cases b with
    | true => exact iff_of_true ⟨1, Nat.one_pos, by simp⟩ (by simp)
    | false => simp [hmax, Value.isBelow] at h
  | int k =>
    have hk : 1 ≤ k := by simpa [hmax, Value.isBelow] using h
    refine iff_of_true ⟨k.toNat, by omega, fun size => ?_⟩ (by simp)
    simp only [Bool.and_eq_true, decide_eq_true_eq]
    omega
  | float x =>
    rw [hmax] at h
    have hx : x.ltInt 1 = false := Except.ok.inj h
    cases x with
    | finite negative m e =>
      have hle : (1 : ℚ) ≤ Binary64.rat negative m e := by
        have hlt := mt Binary64.ltInt_finite.2 (Bool.eq_false_iff.1 hx)
        exact_mod_cast not_lt.1 hlt
      have hpos : Binary64.leInt (.finite negative m e) 0 = false := by
        rw [← Bool.not_eq_true, Binary64.leInt_finite, Int.cast_zero]
        linarith
      refine iff_of_true ⟨⌈Binary64.rat negative m e⌉₊, Nat.ceil_pos.2 (by linarith), fun size => ?_⟩
        (by simp)
      simp only [hpos, Bool.not_false, Bool.true_and, Binary64.leInt_finite, Nat.ceil_le, Int.cast_natCast]
    | infinite negative =>
      obtain rfl : negative = false := hx
      refine iff_of_false ?_ (by simp)
      rintro ⟨limit, -, hfull⟩
      exact absurd ((hfull limit).2 le_rfl) (by simp [Binary64.leInt])
    | nan =>
      refine iff_of_false ?_ (by simp)
      rintro ⟨limit, -, hfull⟩
      exact absurd ((hfull limit).2 le_rfl) (by simp [Binary64.leInt])
  | _ => simp [hmax, Value.isBelow] at h

theorem write_of_not_isLimited (h : t.maxBytes.isBelow 1 = .ok false) (hno : ¬t.IsLimited)
    (tree : Files.Tree) (line : String) : t.write tree line = (t.append tree line, none) := by
  have hfull (size : ℕ) : t.isFull size = false := by
    rw [isLimited_iff_of_isBelow h, not_and_or, not_not, not_not] at hno
    unfold isFull
    obtain hmax | hmax := hno <;> simp [hmax, Binary64.leInt]
  rw [write, hfull]
  rfl

end Log.FileTarget

/-! Settings -/

namespace Settings

theorem limits_of_check {d : LogDraft} {log : LogSettings} (h : d.check = .ok log) :
    log.maxBytes.isBelow 1 = .ok false ∧ log.backupCount.isBelow 0 = .ok false := by
  obtain ⟨-, -, hlimits, -⟩ := LogDraft.check_eq_ok_iff.1 h
  rw [checkLimits_eq, bind_eq_ok] at hlimits
  obtain ⟨⟨⟩, hmax, hcount⟩ := hlimits
  have hnot {v : Value} {least : ℤ} {refusal : SettingFault}
      (h : refuseBelow v least refusal = .ok ()) : v.isBelow least = .ok false := by
    obtain ⟨low, hlow, h⟩ := bind_eq_ok.1 h
    cases low with
    | true => cases h
    | false => exact hlow
  exact ⟨hnot hmax, hnot hcount⟩

/-- What the limits of a log come to. They are those of the file, and numbers in their ranges, exactly if they
are numbers at all. The file of the log is limited exactly if the greatest size is a finite number, and only
grows otherwise. -/
structure LimitsFollow (env : Environment) (entries : Toml.Entries) (log : LogSettings) : Prop where
  maxBytes : log.maxBytes = firstOf [fileValue? entries "logging" "max_bytes"] (.int 10485760)
  backupCount : log.backupCount = firstOf [fileValue? entries "logging" "backup_count"] (.int 5)
  atLeastOne : log.maxBytes.AtLeast 1 ↔ log.maxBytes ≠ .float .nan
  atLeastZero : log.backupCount.AtLeast 0 ↔ log.backupCount ≠ .float .nan
  file (j : Log.Journal) (now : Value) (out : Log.Surface) :
    ∀ s ∈ (j.configure log env now out).1.sinks, ∀ t, s.target = .file t →
      (t.IsLimited ↔ log.maxBytes ≠ .float .nan ∧ log.maxBytes ≠ .float (.infinite false)) ∧
      (¬t.IsLimited → ∀ tree line, t.write tree line = (t.append tree line, none))

/-- Whatever limits the file holds: once they are accepted, they are in their ranges or no numbers. -/
theorem limits_follow (tree : Files.Tree) (env : Environment) (path : Option Files.Path)
    (settings : Settings) (o : LogOverride) (log : LogSettings)
    (hload : (load tree env path).result = .ok settings)
    (hoverride : settings.log.override o = .ok log) :
    ∃ entries, (loadFile tree env path).result = .ok entries ∧ LimitsFollow env entries log := by
  obtain ⟨entries, hentries, hbase⟩ := bind_eq_ok.1 hload
  have hfollows := follows_of_ofTables hbase
  obtain ⟨-, -, -, -, -, hmaxBase, hcountBase⟩ := LogDraft.check_eq_ok_iff.1 hoverride
  obtain ⟨hmax, hcount⟩ := limits_of_check hoverride
  refine ⟨entries, hentries, hmaxBase.trans hfollows.maxBytes, hcountBase.trans hfollows.backupCount,
    Value.atLeast_iff_of_isBelow hmax, Value.atLeast_iff_of_isBelow hcount, ?_⟩
  intro j now out s hs t ht
  obtain ⟨-, -, hfile⟩ := (j.setUp_configure log env now out).of_mem_sinks hs
  obtain ⟨heq, -⟩ := hfile t ht
  rw [← heq] at hmax ⊢
  exact ⟨Log.FileTarget.isLimited_iff_of_isBelow hmax, Log.FileTarget.write_of_not_isLimited hmax⟩

def limitsTree (maxBytes backupCount : String) : Files.Tree :=
  let file := "[logging]\nmax_bytes = " ++ maxBytes ++ "\nbackup_count = " ++ backupCount ++ "\n"
  ⟨["work"], "/work", [(["work", "c"], .file file.toUTF8.toList)]⟩

def bareEnvironment : Environment := ⟨[], "/home/user"⟩

def wideSettings : Settings :=
  (load (limitsTree "1024.5" "inf") bareEnvironment (some (.ofText "c"))).result.toOption.get
    (by decide +kernel)

theorem wideLimits_follow : ∃ entries log,
    (load (limitsTree "1024.5" "inf") bareEnvironment (some (.ofText "c"))).result = .ok wideSettings ∧
    wideSettings.log.override {} = .ok log ∧ log.maxBytes.AtLeast 1 ∧ log.backupCount.AtLeast 0 ∧
    LimitsFollow bareEnvironment entries log := by
  have hload : (load (limitsTree "1024.5" "inf") bareEnvironment (some (.ofText "c"))).result =
      .ok wideSettings := toOption_eq_some.1 (Option.some_get _).symm
  obtain ⟨log, hlog⟩ := exists_ok_of_isSome (x := wideSettings.log.override {}) (by decide +kernel)
  have hnans : (wideSettings.log.override {}).map (fun log => (log.maxBytes.isNan, log.backupCount.isNan)) =
      .ok (false, false) := by decide +kernel
  rw [hlog] at hnans
  obtain ⟨hmax, hcount⟩ := Prod.mk.inj (Except.ok.inj hnans)
  rw [← Bool.not_eq_true, Value.isNan_iff] at hmax hcount
  obtain ⟨entries, -, h⟩ := limits_follow _ _ _ _ _ log hload hlog
  exact ⟨entries, log, hload, hlog, h.atLeastOne.2 hmax, h.atLeastZero.2 hcount, h⟩

def noNumberSettings : Settings :=
  (load (limitsTree "nan" "5") bareEnvironment (some (.ofText "c"))).result.toOption.get
    (by decide +kernel)

/-- What is no number is accepted as the greatest size. -/
theorem noNumber_accepted : ∃ log,
    (load (limitsTree "nan" "5") bareEnvironment (some (.ofText "c"))).result = .ok noNumberSettings ∧
    noNumberSettings.log.override {} = .ok log ∧ ¬log.maxBytes.AtLeast 1 := by
  have hload : (load (limitsTree "nan" "5") bareEnvironment (some (.ofText "c"))).result =
      .ok noNumberSettings := toOption_eq_some.1 (Option.some_get _).symm
  obtain ⟨log, hlog⟩ := exists_ok_of_isSome (x := noNumberSettings.log.override {}) (by decide +kernel)
  have hnan : (noNumberSettings.log.override {}).map (·.maxBytes.isNan) = .ok true := by decide +kernel
  rw [hlog] at hnan
  refine ⟨log, hload, hlog, ?_⟩
  rw [Value.isNan_iff.1 (Except.ok.inj hnan)]
  nofun

end Settings
end ReleaseMatch
