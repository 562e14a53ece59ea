import ReleaseMatch.Proofs.Files.Names
import ReleaseMatch.Proofs.Text.Utf8
import ReleaseMatch.Proofs.Toml.Overlong
import ReleaseMatch.Settings.File
set_option autoImplicit false

/-!
# Reading the configuration file

A configuration file gives its tables, or none where it is missing or malformed, and one note in the log
tells which. There are three exceptions, which come through without a note: a path that is too long, bytes
that no text is written as, and an integer of too many digits.
-/
namespace ReleaseMatch.Settings

open Text

/-- What is read with one note: tables, or none and the reason for it. -/
inductive Quietly (tree : Files.Tree) (path : Files.Path) :
    Noted (Except FileFault Toml.Entries) → Prop
  | missing {f : Files.Fault} (hfind : tree.find path.text = .error f) :
      Quietly tree path ⟨[⟨.debug, logger, "Config file not found: " ++ path.text⟩], .ok []⟩
  | loaded {cs : List Char} {entries : Toml.Entries}
      (hfind : tree.find path.text = .ok (.file (Utf8.encode cs)))
      (hread : Toml.read cs = .ok entries) :
      Quietly tree path ⟨[⟨.debug, logger, "Loaded config from " ++ path.text⟩], .ok entries⟩
  | directory (reason : String) (hfind : tree.find path.text = .ok .dir) :
      Quietly tree path ⟨[⟨.warning, logger,
        "Failed to load config file " ++ path.text ++ ": " ++ reason⟩], .ok []⟩
  | malformed {bytes : List UInt8} (reason : String)
      (hfind : tree.find path.text = .ok (.file bytes))
      (hno : ∀ cs entries, Utf8.encode cs = bytes → Toml.read cs ≠ .ok entries) :
      Quietly tree path ⟨[⟨.warning, logger,
        "Failed to load config file " ++ path.text ++ ": " ++ reason⟩], .ok []⟩

/-- A fault below the level of the text of the file. -/
inductive Breaks (tree : Files.Tree) (path : Files.Path) : FileFault → Prop
  | tooLong (h : tree.TooLong path.text) :
      Breaks tree path (.system (.system .nameTooLong path.text))
  | undecodable {bytes : List UInt8} {fault : Utf8.Fault}
      (hfind : tree.find path.text = .ok (.file bytes)) (hno : ∀ cs, Utf8.encode cs ≠ bytes)
      (hfault : Utf8.decode bytes = .error fault) : Breaks tree path (.undecodable fault)
  | overlong {cs ahead : List Char} {count : Nat}
      (hfind : tree.find path.text = .ok (.file (Utf8.encode cs)))
      (hread : Toml.read cs = .error (.tooManyDigits count))
      (hsuffix : ahead <:+ Toml.joinLineEnds cs) (h : Toml.StartsOverlong count ahead) :
      Breaks tree path (.tooManyDigits count)

section

variable {tree : Files.Tree} {path : Files.Path}

theorem not_quietly_error (f : FileFault) : ¬Quietly tree path ⟨[], .error f⟩ := nofun

theorem readFile_of_find {bytes : List UInt8} (hfind : tree.find path.text = .ok (.file bytes))
    (hshort : ¬tree.TooLong path.text) : readFile tree path = readBytes path bytes := by
  rw [readFile, Files.Tree.holds_of_not_tooLong hshort, hfind, Files.Tree.read_of_find hfind]
  rfl

theorem readBytes_cases {bytes : List UInt8} (hfind : tree.find path.text = .ok (.file bytes)) :
    Quietly tree path (readBytes path bytes) ∨
      ∃ f, readBytes path bytes = ⟨[], .error f⟩ ∧ Breaks tree path f := by
  rw [readBytes]
  cases hdecode : Utf8.decode bytes with
  | error f =>
    refine .inr ⟨_, rfl, .undecodable hfind (fun cs h => ?_) hdecode⟩
    exact absurd (hdecode.symm.trans (Utf8.decode_eq_ok_iff.2 h)) (by simp)
  | ok cs =>
    obtain rfl := Utf8.decode_eq_ok_iff.1 hdecode
    have hmalformed {g : Toml.ReadFault} (hread : Toml.read cs = .error g) :
        Quietly tree path (ignored path g.message) := by
      refine .malformed _ hfind fun cs' entries h hok => ?_
      rw [Utf8.encode_injective h, hread] at hok
      exact nomatch hok
    dsimp only
    split
    · next entries hread => exact .inl (.loaded hfind hread)
    · next count hread =>
      obtain ⟨ahead, hsuffix, h⟩ := Toml.startsOverlong_of_read hread
      exact .inr ⟨_, rfl, .overlong hfind hread hsuffix h⟩
    · next f hread => exact .inl (hmalformed hread)

theorem readFile_cases (tree : Files.Tree) (path : Files.Path) :
    Quietly tree path (readFile tree path) ∨
      ∃ f, readFile tree path = ⟨[], .error f⟩ ∧ Breaks tree path f := by
  rw [readFile]
  by_cases hlong : tree.TooLong path.text
  · rw [Files.Tree.holds_of_tooLong hlong]
    exact .inr ⟨_, rfl, .tooLong hlong⟩
  · rw [Files.Tree.holds_of_not_tooLong hlong]
    cases hfind : tree.find path.text with
    | error f => exact .inl (.missing hfind)
    | ok e =>
      rw [Files.Tree.read_of_find hfind]
      cases e with
      | file bytes => exact readBytes_cases hfind
      | dir => exact .inl (.directory _ hfind)

/-- What is found at a path has no name that is too long on the way to it. -/
theorem not_tooLong_of_find {e : Files.Entry} (hfind : tree.find path.text = .ok e) :
    ¬tree.TooLong path.text := by
  intro hlong
  have hholds := Files.Tree.holds_of_tooLong hlong
  rw [Files.Tree.holds, hfind] at hholds
  cases hholds

theorem readFile_of_breaks {f : FileFault} (h : Breaks tree path f) :
    readFile tree path = ⟨[], .error f⟩ := by
  cases h with
  | tooLong hlong =>
    rw [readFile, Files.Tree.holds_of_tooLong hlong]
  | undecodable hfind hno hfault =>
    rw [readFile_of_find hfind (not_tooLong_of_find hfind), readBytes, hfault]
  | overlong hfind hread hsuffix hahead =>
    rw [readFile_of_find hfind (not_tooLong_of_find hfind), readBytes, Utf8.decode_eq_ok_iff.2 rfl]
    simp only [hread]

end

/-- The file is read with one note, and its tables are those of its text or none, exactly where none of
the three faults is there; otherwise that fault comes through and nothing is noted. -/
theorem readFile_quietly_iff (tree : Files.Tree) (path : Files.Path) :
    (Quietly tree path (readFile tree path) ↔ ∀ f, ¬Breaks tree path f) ∧
      ∀ f, readFile tree path = ⟨[], .error f⟩ ↔ Breaks tree path f := by
  have hbreaks (f : FileFault) : readFile tree path = ⟨[], .error f⟩ ↔ Breaks tree path f := by
    refine ⟨fun hread => ?_, readFile_of_breaks⟩
    obtain hquiet | ⟨g, hg, h⟩ := readFile_cases tree path
    · rw [hread] at hquiet
      exact absurd hquiet (not_quietly_error f)
    · obtain rfl := Except.error.inj (congrArg Noted.result (hg.symm.trans hread))
      exact h
  refine ⟨⟨fun hquiet f h => ?_, fun hnone => ?_⟩, hbreaks⟩
  · rw [readFile_of_breaks h] at hquiet
    exact not_quietly_error f hquiet
  · obtain hquiet | ⟨f, -, h⟩ := readFile_cases tree path
    · exact hquiet
    · exact absurd h (hnone f)

def strayByte : Files.Tree := ⟨["work"], "/work", [(["work", "c"], .file [0xFF])]⟩

theorem strayByte_not_ignored :
    ∃ f, readFile strayByte (.ofText "c") = ⟨[], .error f⟩ ∧ f.kind = "UnicodeDecodeError" ∧
      ¬Quietly strayByte (.ofText "c") (readFile strayByte (.ofText "c")) :=
  ⟨_, rfl, rfl, not_quietly_error _⟩

end ReleaseMatch.Settings
