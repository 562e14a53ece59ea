import ReleaseMatch.Proofs.Document.Members
import ReleaseMatch.Proofs.Json.Read
import ReleaseMatch.Proofs.Log.Time
set_option autoImplicit false

/-!
# Lines of JSON

A record whose further attributes are values of JSON, under names that are not its own, is written on one
line of plain characters. The line is read as an object that tells just what the record holds: the further
attributes stand inside of it, where they hide nothing. Only an integer with too many digits keeps such a
record from being written; and a record may say that there is no error, which then is told as if it were one.
-/
namespace ReleaseMatch.Log

open Number

/-- The names of the further attributes are not those of a record, no two of them are equal, and their
values have a form in JSON. -/
structure Record.IsOrdinary (r : Record) : Prop where
  own : ∀ e ∈ r.given, e.1 ∉ ownNames
  distinct : (r.given.map (·.1)).Nodup
  writable : ∀ e ∈ r.given, e.2.IsWritable
  time : IsTime r.created

def IsPrivate (name : String) : Prop := name.toList.head? = some '_'

instance (name : String) : Decidable (IsPrivate name) := inferInstanceAs (Decidable (_ = _))

namespace Record

variable {r : Record} {message : String}

def topKeys : List String := ["timestamp", "level", "message", "logger", "context", "exception"]

structure Tells (r : Record) (message : String) (entries : List (Value × Value)) : Prop where
  distinct : (entries.map (·.1)).Nodup
  keys : ∀ e ∈ entries, ∃ key ∈ topKeys, e.1 = .text key
  timestamp : ∃ time, isoTime r.created = .ok time ∧ Value.get? entries "timestamp" = some (.text time)
  level : Value.get? entries "level" = some (.text (levelName r.level))
  message : Value.get? entries "message" = some (.text message)
  logger : Value.get? entries "logger" =
    if r.logger = "" ∨ r.logger = "root" then none else some (.text r.logger)
  noContext : Value.get? entries "context" = none ↔ ∀ e ∈ r.given, IsPrivate e.1
  context (v : Value) (h : Value.get? entries "context" = some v) : ∃ members, v = .map members ∧
    (members.map (·.1)).Nodup ∧ ∀ key value, (key, value) ∈ members ↔
      ∃ name, key = .text name ∧ (name, value) ∈ r.given ∧ ¬IsPrivate name
  exception : Value.get? entries "exception" = r.thrown.text?.map .text

theorem IsOrdinary.given?_own (h : r.IsOrdinary) {name : String} (hname : name ∈ ownNames) :
    r.given? name = none := by
  unfold given?
  rw [List.lookup_eq_none_iff]
  intro e he
  rw [bne_iff_ne]
  rintro rfl
  exact h.own e he hname

theorem IsOrdinary.mem_context_iff (h : r.IsOrdinary) {e : String × Value} :
    e ∈ r.context ↔ e ∈ r.given ∧ ¬IsPrivate e.1 := by
  unfold context IsPrivate
  rw [List.mem_filter]
  refine and_congr_right fun he => ?_
  simp [h.own e he]

/-! The object -/

def contextMembers (r : Record) : List (Value × Value) := r.context.map fun (k, v) => (.text k, v)

def exceptionEntry (r : Record) : List (Value × Value) :=
  match r.thrown.text? with
  | none => []
  | some s => [(.text "exception", .text s)]

def firstEntries (r : Record) (time message : String) : List (Value × Value) :=
  [(.text "timestamp", .text time), (.text "level", .text (levelName r.level)), (.text "message", .text message)]

def entries (r : Record) (time message : String) : List (Value × Value) :=
  r.firstEntries time message ++ loggerEntry r ++ contextEntry r ++ exceptionEntry r

theorem IsOrdinary.object_eq (h : r.IsOrdinary) {time : String} (htime : isoTime r.created = .ok time)
    (hmessage : r.message = .ok message) : r.object = .ok (.map (r.entries time message)) := by
  have hcreated : r.time = r.created := by
    rw [Record.time, h.given?_own (by decide), Option.getD_none]
  have hlevel : r.shownLevel = .text (levelName r.level) := by
    rw [shownLevel, h.given?_own (by decide), Option.getD_none]
  have hthrown : r.thrownText = .ok r.thrown.text? := by
    rw [thrownText, h.given?_own (by decide)]
  rw [object, hcreated, htime, hmessage, hthrown, hlevel]
  cases hexception : r.thrown.text? with
  | none => simp [entries, firstEntries, exceptionEntry, hexception, bind, Except.bind, pure, Except.pure]
  | some m => simp [entries, firstEntries, exceptionEntry, hexception, bind, Except.bind, pure, Except.pure]

theorem IsOrdinary.loggerEntry_eq (h : r.IsOrdinary) : loggerEntry r =
    if r.logger = "" ∨ r.logger = "root" then [] else [(.text "logger", .text r.logger)] := by
  unfold loggerEntry
  rw [shownLogger, h.given?_own (by decide), Option.getD_none]
  by_cases hempty : r.logger = ""
  · simp [hempty]
  · by_cases hroot : r.logger = "root" <;> simp [hempty, hroot]

theorem contextEntry_eq (r : Record) : contextEntry r =
    if r.context = [] then [] else [(.text "context", .map r.contextMembers)] := by
  unfold contextEntry contextMembers
  cases r.context with
  | nil => rfl
  | cons e es => rfl

theorem IsOrdinary.isWritable_context (h : r.IsOrdinary) : (Value.map r.contextMembers).IsWritable := by
  refine .map (fun e he => ?_) fun e he => ?_
  · obtain ⟨⟨name, v⟩, -, rfl⟩ := List.mem_map.1 he
    exact ⟨name, rfl⟩
  · obtain ⟨⟨name, v⟩, hmem, rfl⟩ := List.mem_map.1 he
    exact h.writable _ (h.mem_context_iff.1 hmem).1

theorem IsOrdinary.keys_sublist (h : r.IsOrdinary) (time message : String) :
    ((r.entries time message).map (·.1)).Sublist (topKeys.map .text) := by
  have hlogger : ((loggerEntry r).map (·.1)).Sublist [.text "logger"] := by
    rw [h.loggerEntry_eq]
    split <;> simp
  have hcontext : ((contextEntry r).map (·.1)).Sublist [.text "context"] := by
    rw [contextEntry_eq]
    split <;> simp
  have hexception : ((exceptionEntry r).map (·.1)).Sublist [.text "exception"] := by
    unfold exceptionEntry
    split <;> simp
  unfold entries
  rw [List.map_append, List.map_append, List.map_append]
  exact (((List.Sublist.refl _).append hlogger).append hcontext).append hexception

theorem nodup_topKeys : (topKeys.map Value.text).Nodup :=
  List.Nodup.map (fun _ _ heq => Value.text.inj heq) (by decide)

theorem IsOrdinary.isWritable_entries (h : r.IsOrdinary) (time message : String) :
    (Value.map (r.entries time message)).IsWritable := by
  refine .map (fun e he => ?_) fun e he => ?_
  · have hmem := (h.keys_sublist time message).subset (List.mem_map_of_mem he)
    obtain ⟨key, -, hkey⟩ := List.mem_map.1 hmem
    exact ⟨key, hkey.symm⟩
  · unfold entries at he
    rw [h.loggerEntry_eq, contextEntry_eq, exceptionEntry, firstEntries] at he
    simp only [List.mem_append, List.mem_cons, List.not_mem_nil, or_false] at he
    rcases he with (((rfl | rfl | rfl) | hlogger) | hcontext) | hexception
    · exact .text _
    · exact .text _
    · exact .text _
    · split at hlogger
      · exact absurd hlogger List.not_mem_nil
      · obtain rfl := List.mem_singleton.1 hlogger
        exact .text _
    · split at hcontext
      · exact absurd hcontext List.not_mem_nil
      · obtain rfl := List.mem_singleton.1 hcontext
        exact h.isWritable_context
    · split at hexception
      · exact absurd hexception List.not_mem_nil
      · obtain rfl := List.mem_singleton.1 hexception
        exact .text _

theorem IsOrdinary.context_eq_nil_iff (h : r.IsOrdinary) : r.context = [] ↔ ∀ e ∈ r.given, IsPrivate e.1 := by
  rw [List.eq_nil_iff_forall_not_mem]
  constructor
  · intro hnone e he
    exact not_not.1 fun hpublic => hnone e (h.mem_context_iff.2 ⟨he, hpublic⟩)
  · intro hall e he
    obtain ⟨hgiven, hpublic⟩ := h.mem_context_iff.1 he
    exact hpublic (hall e hgiven)

/-! Integers that are too long -/

/-- No integer in the further attributes that are told has too many digits. -/
def IsShort (r : Record) : Prop := ∀ e ∈ r.given, ¬IsPrivate e.1 → e.2.hasLong = false

instance (r : Record) : Decidable r.IsShort :=
  inferInstanceAs (Decidable (∀ e ∈ r.given, ¬IsPrivate e.1 → e.2.hasLong = false))

theorem entriesHaveLong_eq_false_iff {es : List (Value × Value)} :
    Value.entriesHaveLong es = false ↔ ∀ e ∈ es, e.1.hasLong = false ∧ e.2.hasLong = false := by
  induction es with
  | nil => simp [Value.entriesHaveLong]
  | cons e es ih =>
    rw [Value.entriesHaveLong, List.forall_mem_cons, ← ih, Bool.or_eq_false_iff, Bool.or_eq_false_iff]

theorem IsOrdinary.hasLong_context (h : r.IsOrdinary) :
    (Value.map r.contextMembers).hasLong = false ↔ r.IsShort := by
  rw [Value.hasLong, entriesHaveLong_eq_false_iff]
  unfold contextMembers IsShort
  rw [List.forall_mem_map]
  constructor
  · exact fun hall e he hpublic => (hall e (h.mem_context_iff.2 ⟨he, hpublic⟩)).2
  · intro hshort e he
    obtain ⟨hgiven, hpublic⟩ := h.mem_context_iff.1 he
    exact ⟨rfl, hshort e hgiven hpublic⟩

theorem IsOrdinary.hasLong_entries (h : r.IsOrdinary) (time message : String) :
    (Value.map (r.entries time message)).hasLong = false ↔ r.IsShort := by
  have hlogger : ∀ e ∈ loggerEntry r, e.1.hasLong = false ∧ e.2.hasLong = false := by
    rw [h.loggerEntry_eq]
    split
    · exact fun e he => absurd he List.not_mem_nil
    · exact List.forall_mem_singleton.2 ⟨rfl, rfl⟩
  have hexception : ∀ e ∈ exceptionEntry r, e.1.hasLong = false ∧ e.2.hasLong = false := by
    unfold exceptionEntry
    split
    · exact fun e he => absurd he List.not_mem_nil
    · exact List.forall_mem_singleton.2 ⟨rfl, rfl⟩
  have hcontext : (∀ e ∈ contextEntry r, e.1.hasLong = false ∧ e.2.hasLong = false) ↔ r.IsShort := by
    rw [contextEntry_eq]
    split
    · next hnone =>
      refine iff_of_true (fun e he => absurd he List.not_mem_nil) fun e he hpublic => ?_
      exact absurd (h.context_eq_nil_iff.1 hnone e he) hpublic
    · rw [List.forall_mem_singleton, ← h.hasLong_context]
      exact and_iff_right rfl
  have hfirst : ∀ e ∈ r.firstEntries time message, e.1.hasLong = false ∧ e.2.hasLong = false := by
    simp [firstEntries, Value.hasLong]
  rw [Value.hasLong, entriesHaveLong_eq_false_iff, entries, List.forall_mem_append, List.forall_mem_append,
    List.forall_mem_append, hcontext]
  exact ⟨fun hall => hall.1.2, fun hshort => ⟨⟨⟨hfirst, hlogger⟩, hshort⟩, hexception⟩⟩

theorem IsOrdinary.jsonLine_eq (h : r.IsOrdinary) {time : String} (htime : isoTime r.created = .ok time)
    (hmessage : r.message = .ok message) : r.line .json =
      if r.IsShort then .ok (Json.render (.map (r.entries time message))) else .error .longInteger := by
  rw [Record.line, jsonLine, h.object_eq htime hmessage]
  change (if (Value.map (r.entries time message)).hasLong = true then _ else _) = _
  by_cases hshort : r.IsShort
  · rw [(h.hasLong_entries time message).2 hshort, if_pos hshort]
    rfl
  · have hlong := mt (h.hasLong_entries time message).1 hshort
    rw [Bool.not_eq_false] at hlong
    rw [hlong, if_neg hshort]
    rfl

/-! What stands under a key -/

theorem get?_append (xs ys : List (Value × Value)) (key : String) :
    Value.get? (xs ++ ys) key = (Value.get? xs key).or (Value.get? ys key) := by
  induction xs with
  | nil => rfl
  | cons e xs ih =>
    obtain ⟨k, v⟩ := e
    by_cases hk : k = .text key
    · subst hk
      simp [Value.get?]
    · rw [List.cons_append, Value.get?_cons_of_ne hk, Value.get?_cons_of_ne hk, ih]

theorem IsOrdinary.get?_loggerEntry (h : r.IsOrdinary) (key : String) : Value.get? (loggerEntry r) key =
    if key = "logger" ∧ ¬(r.logger = "" ∨ r.logger = "root") then some (.text r.logger) else none := by
  rw [h.loggerEntry_eq]
  split
  · next hroot =>
    rw [if_neg fun hk => hk.2 hroot]
    rfl
  · next hroot =>
    by_cases hkey : key = "logger"
    · rw [if_pos ⟨hkey, hroot⟩, hkey]
      simp [Value.get?]
    · rw [if_neg fun hk => hkey hk.1]
      simp [Value.get?, Ne.symm hkey]

theorem get?_contextEntry (r : Record) (key : String) : Value.get? (contextEntry r) key =
    if key = "context" ∧ r.context ≠ [] then some (.map r.contextMembers) else none := by
  rw [contextEntry_eq]
  by_cases hnone : r.context = []
  · simp [hnone, Value.get?]
  · by_cases hkey : key = "context"
    · simp [hnone, hkey, Value.get?]
    · simp [hnone, Value.get?, hkey, Ne.symm hkey]

theorem get?_exceptionEntry (r : Record) (key : String) : Value.get? (exceptionEntry r) key =
    if key = "exception" then r.thrown.text?.map .text else none := by
  unfold exceptionEntry
  cases r.thrown.text? with
  | none => simp [Value.get?]
  | some m =>
    by_cases hkey : key = "exception"
    · simp [hkey, Value.get?]
    · simp [Value.get?, hkey, Ne.symm hkey]

theorem IsOrdinary.mem_contextMembers_iff (h : r.IsOrdinary) {key value : Value} :
    (key, value) ∈ r.contextMembers ↔ ∃ name, key = .text name ∧ (name, value) ∈ r.given ∧ ¬IsPrivate name := by
  unfold contextMembers
  constructor
  · intro hmem
    obtain ⟨⟨name, v⟩, hcontext, heq⟩ := List.mem_map.1 hmem
    obtain ⟨rfl, rfl⟩ := Prod.mk.inj heq
    exact ⟨name, rfl, h.mem_context_iff.1 hcontext⟩
  · rintro ⟨name, rfl, hgiven⟩
    exact List.mem_map.2 ⟨(name, value), h.mem_context_iff.2 hgiven, rfl⟩

theorem IsOrdinary.nodup_contextMembers (h : r.IsOrdinary) : (r.contextMembers.map (·.1)).Nodup := by
  have hnames : (r.context.map (·.1)).Nodup := h.distinct.sublist (List.filter_sublist.map _)
  have hkeys : r.contextMembers.map (·.1) = (r.context.map (·.1)).map .text := by
    unfold contextMembers
    rw [List.map_map, List.map_map]
    rfl
  rw [hkeys]
  exact hnames.map fun _ _ heq => Value.text.inj heq

theorem IsOrdinary.tells (h : r.IsOrdinary) {time : String} (htime : isoTime r.created = .ok time) :
    r.Tells message (r.entries time message) := by
  have hget (key : String) : Value.get? (r.entries time message) key =
      (((Value.get? (r.firstEntries time message) key).or (Value.get? (loggerEntry r) key)).or
        (Value.get? (contextEntry r) key)).or (Value.get? (exceptionEntry r) key) := by
    unfold entries
    rw [get?_append, get?_append, get?_append]
  simp only [h.get?_loggerEntry, get?_contextEntry, get?_exceptionEntry, firstEntries, Value.get?] at hget
  have hcontext : Value.get? (r.entries time message) "context" =
      if r.context = [] then none else some (.map r.contextMembers) := by
    rw [hget]
    by_cases hnone : r.context = [] <;> simp [hnone]
  exact {
    distinct := nodup_topKeys.sublist (h.keys_sublist time message)
    keys := fun e he => by
      have hmem := (h.keys_sublist time message).subset (List.mem_map_of_mem he)
      obtain ⟨key, htop, hkey⟩ := List.mem_map.1 hmem
      exact ⟨key, htop, hkey.symm⟩
    timestamp := ⟨time, htime, by rw [hget]; simp⟩
    level := by rw [hget]; simp
    message := by rw [hget]; simp
    logger := by
      rw [hget]
      by_cases hroot : r.logger = "" ∨ r.logger = "root"
      · simp only [hroot]; simp
      · simp only [hroot]; simp
    noContext := by
      rw [hcontext, ← h.context_eq_nil_iff]
      by_cases hnone : r.context = [] <;> simp [hnone]
    context := fun v hv => by
      rw [hcontext] at hv
      split at hv
      · cases hv
      · obtain rfl := Option.some.inj hv
        exact ⟨_, rfl, h.nodup_contextMembers, fun key value => h.mem_contextMembers_iff⟩
    exception := by rw [hget]; simp }

end Record

/-- The line of an ordinary record is plain, and it is read as an object that tells of the record. With an
integer that is too long there is no line. -/
theorem jsonLine_decodes (r : Record) (message : String) (h : r.IsOrdinary)
    (hmessage : r.message = .ok message) :
    (r.IsShort → ∃ line entries, r.line .json = .ok line ∧
      (∀ c ∈ line.toList, 32 ≤ c.toNat ∧ c.toNat < 127) ∧ Json.read? line = some (.map entries) ∧
      r.Tells message entries) ∧
    (¬r.IsShort → r.line .json = .error .longInteger) := by
  obtain ⟨time, htime⟩ := isoTime_of_isTime h.time
  rw [h.jsonLine_eq htime hmessage]
  refine ⟨fun hshort => ?_, fun hlong => if_neg hlong⟩
  have hwritable := h.isWritable_entries time message
  refine ⟨_, r.entries time message, if_pos hshort, fun c hc => ?_, Json.read?_render hwritable, h.tells htime⟩
  rw [Json.render, String.toList_ofList] at hc
  have hplain := Json.isPlain_line hwritable c hc
  rw [Yaml.isPlainAscii, Bool.and_eq_true, decide_eq_true_eq, decide_eq_true_eq] at hplain
  exact hplain

/-- A record with a face in its message, a private attribute and a public one that holds others. -/
def faceRecord : Record where
  logger := "release_pattern_builder.x"
  level := .int 30
  template := .text "a \"%s\"\n"
  values := [.text (String.ofList [Char.ofNat 0x1F600])]
  thrown := .error (errorLine "ValueError" "lost")
  created := .float (.finite false (1700000000 * 2 ^ 22) (-22))
  given := [("sizes", .list [.int (-7), .float (.finite true (2 ^ 52) (-53)), .map [(.text "a\tb", .null)]]),
    ("_depth", .int 1)]

theorem faceRecord_isOrdinary : faceRecord.IsOrdinary where
  own := by decide
  distinct := by decide
  writable := by
    have hhalf : Binary64.IsCanonical (2 ^ 52) (-53) := ⟨by decide, by decide, by decide, .inl (by decide)⟩
    intro e he
    rcases List.mem_cons.1 he with rfl | he
    · refine .list fun v hv => ?_
      simp only [List.mem_cons, List.not_mem_nil, or_false] at hv
      rcases hv with rfl | rfl | rfl
      · exact .int _
      · exact .float hhalf
      · refine .map (fun e he => ?_) fun e he => ?_
        · obtain rfl := List.mem_singleton.1 he
          exact ⟨_, rfl⟩
        · obtain rfl := List.mem_singleton.1 he
          exact .null
    · obtain rfl := List.mem_singleton.1 he
      exact .int _
  time := .float (by norm_num [Binary64.rat]) (by norm_num [Binary64.rat])

theorem faceRecord_decodes : ∃ message line entries, faceRecord.message = .ok message ∧
    faceRecord.line .json = .ok line ∧ (∀ c ∈ line.toList, 32 ≤ c.toNat ∧ c.toNat < 127) ∧
    Json.read? line = some (.map entries) ∧ faceRecord.Tells message entries := by
  obtain ⟨message, hmessage⟩ := exists_ok_of_isSome (x := faceRecord.message) (by decide +kernel)
  obtain ⟨hdecodes, -⟩ := jsonLine_decodes faceRecord message faceRecord_isOrdinary hmessage
  obtain ⟨line, entries, h⟩ := hdecodes (by decide +kernel)
  exact ⟨message, line, entries, hmessage, h⟩

def vacantRecord : Record where
  logger := "root"
  level := .int 20
  template := .text "m"
  thrown := .vacant
  created := .int 0

def longRecord : Record where
  logger := "root"
  level := .int 20
  template := .text "m"
  created := .int 0
  given := [("size", .int Value.longFrom)]

theorem vacantRecord_isOrdinary : vacantRecord.IsOrdinary where
  own := by decide
  distinct := by decide
  writable := by simp [vacantRecord]
  time := .int ⟨by decide, by decide⟩

theorem longRecord_isOrdinary : longRecord.IsOrdinary where
  own := by decide
  distinct := by decide
  writable := List.forall_mem_singleton.2 (.int _)
  time := .int ⟨by decide, by decide⟩

/-- Without an error there is an entry for one, and with a long integer there is no line at all. -/
theorem vacant_told_long_refused :
    (vacantRecord.IsOrdinary ∧ vacantRecord.message = .ok "m" ∧
      ∃ line entries, vacantRecord.line .json = .ok line ∧ Json.read? line = some (.map entries) ∧
        Value.get? entries "exception" = some (.text noError)) ∧
    longRecord.IsOrdinary ∧ longRecord.message = .ok "m" ∧ longRecord.line .json = .error .longInteger := by
  have hvacant := vacantRecord_isOrdinary
  have hlong := longRecord_isOrdinary
  have hmessage : vacantRecord.message = .ok "m" := rfl
  have hmessage' : longRecord.message = .ok "m" := rfl
  obtain ⟨time, htime⟩ := isoTime_of_isTime hvacant.time
  refine ⟨⟨hvacant, hmessage, _, vacantRecord.entries time "m", ?_,
    Json.read?_render (hvacant.isWritable_entries time "m"), (hvacant.tells htime).exception⟩,
    hlong, hmessage', ?_⟩
  · rw [hvacant.jsonLine_eq htime hmessage, if_pos (by decide +kernel)]
  · rw [hlong.jsonLine_eq htime hmessage', if_neg (by decide +kernel)]

end ReleaseMatch.Log
