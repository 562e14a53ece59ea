import ReleaseMatch.Proofs.Document.Filled
import ReleaseMatch.Proofs.Yaml.Bare
set_option autoImplicit false

/-!
# Bare numerals as values of conditions

A condition whose value is written as digits without quotes gets the text by which the number is shown that these
digits stand for. So it gets the digits themselves unless they are taken for a number that is shown in another
way: in base eight behind a zero, or with a point that is not placed as in the text of a floating point number.
Too many digits are refused.
-/
namespace ReleaseMatch.Document

open Number Yaml

/-! The texts of numbers -/

/-- The text that a bare numeral is taken for, unless it has too many digits. -/
def shownNumeral? (n : Numeral) : Option String :=
  match numeralKind n with
  | .point => some (Binary64.ofDecimal false n.digits n.exponent).text
  | .whole => if maxIntDigits < n.whole.length then none else some (String.ofList n.text)
  | .octal => if Nat.pow 10 maxDigits ≤ digitsOf 8 n.whole then none else some (toString (digitsOf 8 n.whole))
  | .padded => some (String.ofList n.text)

inductive IsKept (n : Numeral) : Prop
  | whole (hkind : numeralKind n = .whole) (hlen : n.whole.length ≤ maxIntDigits)
  | padded (hkind : numeralKind n = .padded)
  | point (hkind : numeralKind n = .point) (htext : IsNumberText (String.ofList n.text))

theorem readValue_int_of_lt {n : Nat} (h : n < 10 ^ maxDigits) :
    readValue (.int n) = .ok (String.ofList (Nat.toDigits 10 n)) := by
  have hpow (k : Nat) : Nat.pow 10 k = 10 ^ k := rfl
  rw [readValue, Int.natAbs_natCast, hpow, if_neg (Nat.not_le.2 h), ofList_toDigits]

theorem shownNumeral?_of_isOverlong {n : Numeral} (hlong : isOverlong n = true) : shownNumeral? n = none := by
  rw [isOverlong, Bool.and_eq_true, beq_iff_eq, decide_eq_true_eq] at hlong
  rw [shownNumeral?, hlong.1]
  exact if_pos hlong.2

section

variable {n : Numeral} (h : n.IsProper) (hpower : n.power = none)

include h hpower

theorem readValue_numeralValue (hlong : isOverlong n = false) :
    readValue (numeralValue n) = match shownNumeral? n with
      | some text => .ok text
      | none => refuse .tooManyDigits := by
  have hkind := isKind_numeralKind h hpower
  have hdigits := isDigits_text h hpower
  rw [isOverlong] at hlong
  rw [numeralValue, shownNumeral?]
  generalize numeralKind n = kind at hkind hdigits hlong ⊢
  cases hkind with
  | point => rfl
  | zero htext hwhole =>
    rw [htext, hwhole]
    exact readValue_int_of_lt (Nat.pow_pos (by decide))
  | @whole d ds hd htext hwhole =>
    have hds := htext ▸ hdigits (by simp)
    have hshort : ¬maxIntDigits < (d :: ds).length := by simpa [hwhole] using hlong
    have hlt := (Nat.length_toDigits_le_iff (b := 10) (n := digitsOf 10 (d :: ds)) (by decide)
      (show 0 < maxDigits by decide)).1 (by rw [toDigits_digitsOf hds hd]; exact Nat.not_lt.1 hshort)
    rw [htext, hwhole]
    dsimp only
    rw [if_neg hshort, readValue_int_of_lt hlt, toDigits_digitsOf hds hd]
  | octal =>
    simp only [readValue, Int.natAbs_natCast]
    split
    · rfl
    · rfl
  | padded => rfl

theorem shownNumeral?_eq_self_iff : shownNumeral? n = some (String.ofList n.text) ↔ IsKept n := by
  have hkind := isKind_numeralKind h hpower
  rw [shownNumeral?]
  constructor
  · intro hshown
    cases hnumeral : numeralKind n with
    | point =>
      rw [hnumeral] at hshown
      exact .point hnumeral (h.text_ofDecimal_iff.1 (Option.some.inj hshown))
    | whole =>
      rw [hnumeral] at hshown
      dsimp only at hshown
      split at hshown
      · cases hshown
      · next hshort => exact .whole hnumeral (Nat.not_lt.1 hshort)
    | octal =>
      rw [hnumeral] at hshown hkind
      cases hkind with
      | @octal d ds hoctal htext =>
        dsimp only at hshown
        split at hshown
        · cases hshown
        · have heq := Option.some.inj hshown
          rw [Nat.toString_eq_ofList_toDigits, htext] at heq
          have heq := String.ofList_injective heq
          rcases Nat.eq_zero_or_pos (digitsOf 8 n.whole) with hzero | hpos
          · rw [hzero] at heq
            cases heq
          · obtain ⟨c, cs, hcs, hlow, -⟩ := toDigits_head hpos
            rw [hcs] at heq
            obtain rfl := (List.cons.inj heq).1
            exact absurd hlow (by decide)
    | padded => exact .padded hnumeral
  · intro hkept
    cases hkept with
    | whole hnumeral hlen =>
      rw [hnumeral]
      exact if_neg (Nat.not_lt.2 hlen)
    | padded hnumeral => rw [hnumeral]
    | point hnumeral htext =>
      rw [hnumeral]
      exact congrArg some (h.text_ofDecimal_iff.2 htext)

end

/-! Files -/

/-- The text of a file is read as a document. -/
structure HoldsDocument (tree : Files.Tree) (path : String) (cs : List Char) (root : Node) : Prop where
  read : readFile tree path = .ok cs
  acceptable : ∀ c ∈ cs, isAcceptable c = true
  node : Node.ofText? cs = .ok (some root)

section

variable {tree : Files.Tree} {path : String} {cs : List Char} {root : Node} (h : HoldsDocument tree path cs root)
  (defaults : Defaults)

include h

theorem HoldsDocument.findIdx?_eq : cs.findIdx? (!isAcceptable ·) = none := by
  rw [List.findIdx?_eq_none_iff]
  intro c hc
  rw [h.acceptable c hc]
  rfl

theorem HoldsDocument.load_of_ok {v : Value} (hdata : root.construct (cs.length + 1) = .ok v) :
    Yaml.load cs = .ok v := by
  rw [Yaml.load, h.findIdx?_eq]
  dsimp only
  rw [h.node]
  dsimp only
  rw [hdata]
  rfl

theorem HoldsDocument.load_of_error {f : ReadFault} (hfault : root.construct (cs.length + 1) = .error f) :
    ∃ g, Yaml.load cs = .error g := by
  rw [Yaml.load, h.findIdx?_eq]
  dsimp only
  rw [h.node]
  dsimp only
  rw [hfault]
  exact ⟨_, rfl⟩

theorem HoldsDocument.loadFile_of_map {entries : Entries} (hdata : root.construct (cs.length + 1) = .ok (.map entries)) :
    (loadFile tree path defaults).result = (load (.map entries) defaults).result.mapError .refused := by
  have hread : readData tree path = .ok (.map entries) := by
    simp only [readData, h.read, bind, Except.bind, h.load_of_ok hdata]
    rfl
  rw [loadFile, hread]

theorem HoldsDocument.loadFile_of_error {f : ReadFault} (hfault : root.construct (cs.length + 1) = .error f) :
    ∃ f, (loadFile tree path defaults).result = .error f := by
  obtain ⟨g, hload⟩ := h.load_of_error hfault
  have hread : ∃ f, readData tree path = .error f := by
    simp only [readData, h.read, bind, Except.bind, hload]
    exact ⟨_, rfl⟩
  obtain ⟨f, hread⟩ := hread
  exact ⟨f, by rw [loadFile, hread]⟩

end

/-! Documents with an open value -/

/-- A mapping of which the value under a key is left open. It is the last one under that key. -/
structure Slot (key : String) where
  before : List (Node × Node)
  keyMark : Mark
  after : List (Node × Node)
  mark : Mark
  last : WithoutKey key (ownEntries after)

def Slot.frame {key : String} (s : Slot key) : Frame := .entry s.before key s.keyMark s.after s.mark

/-- A condition set of which the value of one condition is left open. -/
structure Opening where
  sheet : Slot "conditions"
  above : List Node
  below : List Node
  listMark : Mark
  row : Slot "value"

namespace Opening

def index (o : Opening) : Nat := o.above.length

def frames (o : Opening) : List Frame := [o.sheet.frame, .item o.above o.below o.listMark]

def document (o : Opening) (value : Node) : Node := fillAll (o.frames ++ [o.row.frame]) value

theorem length_itemValues (ns : List Node) : (itemValues ns).length = ns.length := by
  induction ns with
  | nil => rfl
  | cons n ns ih => rw [itemValues, List.length_cons, List.length_cons, ih]

theorem differ (o : Opening) (n m : Node) :
    Differ n.toValue m.toValue o.index (o.document n).toValue (o.document m).toValue := by
  obtain ⟨front, back, hfront, hsheet⟩ := toValue_entry o.sheet.before o.sheet.keyMark o.sheet.mark o.sheet.last
  obtain ⟨row, more, hrow, hentry⟩ := toValue_entry o.row.before o.row.keyMark o.row.mark o.row.last
  have hvalue (n : Node) : (o.document n).toValue = .map (front ++ (.text "conditions",
      .list (itemValues o.above ++ .map (row ++ (.text "value", n.toValue) :: more) :: itemValues o.below)) :: back) := by
    have hlist := toValue_item o.above o.below o.listMark (o.row.frame.fill n)
    rw [show (o.row.frame.fill n).toValue = _ from hentry n] at hlist
    exact (hsheet ((Frame.item o.above o.below o.listMark).fill (o.row.frame.fill n))).trans (by rw [hlist])
  rw [hvalue, hvalue, index, ← length_itemValues]
  exact .mk hfront hrow

theorem waiting_document (o : Opening) (n : Node) : waiting (o.document n) = .ok [o.document n] :=
  o.sheet.frame.waiting_fill _

/-- Whether there are faults depends on the value only by what waits in it. -/
theorem construct_document (o : Opening) {n m : Node} (hwaiting : waiting n = waiting m) {fuel : Nat} {data : Value}
    (h : (o.document m).construct fuel = .ok data) : (o.document n).construct fuel = .ok (o.document n).toValue := by
  obtain ⟨ms, hms, h⟩ := bind_eq_ok.1 h
  obtain ⟨⟨⟩, hcheck, -⟩ := bind_eq_ok.1 h
  obtain rfl := Except.ok.inj ((o.waiting_document m).symm.trans hms)
  refine bind_eq_ok.2 ⟨_, o.waiting_document n, bind_eq_ok.2 ⟨(), ?_, rfl⟩⟩
  exact (checkGenerations_alike fuel (.cons (alike_fillAll o.frames hwaiting) .nil)).trans hcheck

theorem construct_document_of_error (o : Opening) {n : Node} {f : ReadFault} (hwaiting : waiting n = .error f)
    {fuel : Nat} (hfuel : 2 < fuel) : ∃ f, (o.document n).construct fuel = .error f := by
  cases hdata : (o.document n).construct fuel with
  | error f => exact ⟨f, rfl⟩
  | ok data =>
    obtain ⟨ms, hms, h⟩ := bind_eq_ok.1 hdata
    obtain ⟨⟨⟩, hcheck, -⟩ := bind_eq_ok.1 h
    obtain rfl := Except.ok.inj ((o.waiting_document n).symm.trans hms)
    obtain ⟨ms, hms⟩ := waiting_of_checkGenerations [_, _] hfuel List.mem_cons_self hcheck
    exact absurd (hms.symm.trans hwaiting) (by simp)

theorem exists_map_document (o : Opening) (n : Node) : ∃ entries, (o.document n).toValue = .map entries := by
  obtain ⟨front, back, -, hsheet⟩ := toValue_entry o.sheet.before o.sheet.keyMark o.sheet.mark o.sheet.last
  exact ⟨_, hsheet ((Frame.item o.above o.below o.listMark).fill (o.row.frame.fill n))⟩

end Opening

/-! Bare numerals -/

def bare (n : Numeral) (mark : Mark) : Node :=
  .scalar (plainTag (String.ofList n.text)) (String.ofList n.text) mark

def quoted (n : Numeral) (mark : Mark) : Node := .scalar .str (String.ofList n.text) mark

def Opening.LoadsQuoted (o : Opening) (n : Numeral) (mark : Mark) (size : Nat) (defaults : Defaults)
    (set : ConditionSet) : Prop :=
  ∃ data, (o.document (quoted n mark)).construct (size + 1) = .ok data ∧ (load data defaults).result = .ok set

/-- A file holds a condition set but for one condition, of which the value stands there as digits without quotes. -/
inductive HoldsBare (tree : Files.Tree) (path : String) (defaults : Defaults) (n : Numeral) : Nat → ConditionSet → Prop
  | mk {o : Opening} {cs : List Char} {mark : Mark} {set : ConditionSet}
      (hfile : HoldsDocument tree path cs (o.document (bare n mark))) (hstands : n.text <:+: cs)
      (hquoted : o.LoadsQuoted n mark cs.length defaults set) : HoldsBare tree path defaults n o.index set

/-- At a place of the list a file has a condition that looks for a literal. -/
def LooksFor (tree : Files.Tree) (path : String) (defaults : Defaults) (index : Nat) (literal : String) : Prop :=
  ∃ set c, (loadFile tree path defaults).result = .ok set ∧ set.conditions[index]? = some c ∧ c.value = literal ∧
    c.fragment = if c.caseSensitive.isSet then Literal.escape literal else ignoreCaseFlag ++ Literal.escape literal

section

variable {n : Numeral} (hn : n.IsProper) (hpower : n.power = none) {tree : Files.Tree} {path : String}
  {defaults : Defaults} {index : Nat} {set : ConditionSet} (h : HoldsBare tree path defaults n index set)

include hn hpower h

/-- The file holds the condition set with the text that the digits are taken for; and if there is none, the file is
no condition set. -/
theorem HoldsBare.loadFile_eq : (loadFile tree path defaults).result.toOption =
    (shownNumeral? n).map (set.withValue index ·) := by
  obtain @⟨o, cs, mark, set, hfile, hstands, data, hdata, hset⟩ := h
  have hvalue := scalarValue_numeral hn hpower mark
  cases hlong : isOverlong n with
  | true =>
    have hwaiting : waiting (bare n mark) = .error (.text (.longInt n.whole.length)) := by
      rw [waiting, bare, hvalue, hlong]
      rfl
    -- So many digits stand in the text that the fuel suffices to get to them.
    have hfuel : 2 < cs.length + 1 := by
      rw [isOverlong, Bool.and_eq_true, decide_eq_true_eq] at hlong
      have hwhole : n.whole.length ≤ n.text.length := by
        rw [Numeral.text, List.length_append]
        exact Nat.le_add_right _ _
      have hlength := hstands.length_le
      have := hlong.2
      rw [maxIntDigits] at this
      omega
    obtain ⟨f, hf⟩ := o.construct_document_of_error hwaiting hfuel
    obtain ⟨g, hg⟩ := hfile.loadFile_of_error defaults hf
    rw [hg, shownNumeral?_of_isOverlong hlong]
    rfl
  | false =>
    have hbare : (bare n mark).toValue = numeralValue n ∧ waiting (bare n mark) = .ok [] := by
      rw [hlong, if_neg Bool.false_ne_true] at hvalue
      constructor
      · rw [bare, Node.toValue, hvalue]
      · rw [waiting, bare, hvalue]
        rfl
    have hquotes : waiting (quoted n mark) = .ok [] := rfl
    -- With and without quotes nothing waits in the value, so the documents differ in nothing but the value.
    have hconstruct := o.construct_document (hbare.2.trans hquotes.symm) hdata
    obtain ⟨entries, hentries⟩ := o.exists_map_document (bare n mark)
    rw [hentries] at hconstruct
    rw [hfile.loadFile_of_map defaults hconstruct]
    have hdiffer := o.differ (bare n mark) (quoted n mark)
    rw [hentries, hbare.1] at hdiffer
    have hread := readValue_numeralValue hn hpower hlong
    obtain rfl : (o.document (quoted n mark)).toValue = data := by
      obtain ⟨ms, -, hdata⟩ := bind_eq_ok.1 hdata
      obtain ⟨⟨⟩, -, hdata⟩ := bind_eq_ok.1 hdata
      exact Except.ok.inj hdata
    cases hshown : shownNumeral? n with
    | some text =>
      rw [hshown] at hread
      rw [hdiffer.loads hread hset]
      rfl
    | none =>
      rw [hshown] at hread
      cases hload : (load (.map entries) defaults).result with
      | error f => rfl
      | ok loaded =>
        obtain ⟨value, hvalue⟩ := hdiffer.readValue_of_loads hload
        exact absurd (hvalue.symm.trans hread) (by simp [refuse])

theorem HoldsBare.looksFor_iff {c : Condition} (hc : set.conditions[index]? = some c) (hcontains : c.operator = .contains) :
    LooksFor tree path defaults index (String.ofList n.text) ↔ IsKept n := by
  have hload := h.loadFile_eq hn hpower
  have hfill (text : String) : (set.withValue index text).conditions[index]? = some { c with value := text } := by
    simp [ConditionSet.withValue, hc]
  rw [← shownNumeral?_eq_self_iff hn hpower]
  constructor
  · rintro ⟨loaded, d, hloaded, hd, hvalue, -⟩
    rw [hloaded] at hload
    obtain ⟨text, htext, rfl⟩ := Option.map_eq_some_iff.1 hload.symm
    obtain rfl := Option.some.inj ((hfill text).symm.trans hd)
    rw [htext, ← hvalue]
  · intro hshown
    rw [hshown, Option.map_some, toOption_eq_some] at hload
    refine ⟨_, _, hload, hfill _, rfl, ?_⟩
    rw [Condition.fragment]
    dsimp only
    rw [hcontains]
    cases c.caseSensitive.isSet <;> rfl

end

end ReleaseMatch.Document
