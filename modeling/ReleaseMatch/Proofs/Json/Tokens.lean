import ReleaseMatch.Proofs.Yaml.Flow
import ReleaseMatch.Proofs.Yaml.Plain
set_option autoImplicit false

/-!
# JSON text as tokens

JSON text on one line is read as tokens of flow style: brackets, braces, commas and colons as themselves,
texts as quoted scalars, and numbers and words as plain ones.
-/
namespace ReleaseMatch

open Number Yaml

/-- A value that JSON has a form for: numbers are finite, and the keys of a mapping are texts. -/
inductive Value.IsWritable : Value → Prop
  | null : IsWritable .null
  | bool (b : Bool) : IsWritable (.bool b)
  | int (n : Int) : IsWritable (.int n)
  | float {negative : Bool} {m : Nat} {e : Int} (h : Binary64.IsCanonical m e) :
      IsWritable (.float (.finite negative m e))
  | text (s : String) : IsWritable (.text s)
  | list {xs : List Value} (h : ∀ x ∈ xs, IsWritable x) : IsWritable (.list xs)
  | map {entries : List (Value × Value)} (hkeys : ∀ e ∈ entries, ∃ key, e.1 = .text key)
      (hvalues : ∀ e ∈ entries, IsWritable e.2) : IsWritable (.map entries)

/-- A value that JSON text carries: numbers are finite, texts are of the basic plane, and the keys of a
mapping are texts of which no two are equal. -/
inductive Value.IsPortable : Value → Prop
  | null : IsPortable .null
  | bool (b : Bool) : IsPortable (.bool b)
  | int (n : Int) : IsPortable (.int n)
  | float {negative : Bool} {m : Nat} {e : Int} (h : Binary64.IsCanonical m e) :
      IsPortable (.float (.finite negative m e))
  | text {s : String} (h : IsBasic s.toList) : IsPortable (.text s)
  | list {xs : List Value} (h : ∀ x ∈ xs, IsPortable x) : IsPortable (.list xs)
  | map {entries : List (Value × Value)} (hkeys : ∀ e ∈ entries, ∃ key, e.1 = .text key ∧ IsBasic key.toList)
      (hdistinct : (entries.map (·.1)).Nodup) (hvalues : ∀ e ∈ entries, IsPortable e.2) :
      IsPortable (.map entries)

theorem Value.IsPortable.isWritable {v : Value} (h : v.IsPortable) : v.IsWritable := by
  induction h with
  | null => exact .null
  | bool b => exact .bool b
  | int n => exact .int n
  | float h => exact .float h
  | text h => exact .text _
  | list _ ih => exact .list ih
  | map hkeys _ _ ih => exact .map (fun e he => (hkeys e he).imp fun _ h => h.1) ih

/-- A value within the limits of readers: no integer has too many digits, and no key is too long. -/
inductive Value.IsModest : Value → Prop
  | null : IsModest .null
  | bool (b : Bool) : IsModest (.bool b)
  | int {n : Int} (h : (Nat.toDigits 10 n.natAbs).length ≤ maxIntDigits) : IsModest (.int n)
  | float (x : Binary64) : IsModest (.float x)
  | text (s : String) : IsModest (.text s)
  | list {xs : List Value} (h : ∀ x ∈ xs, IsModest x) : IsModest (.list xs)
  | map {entries : List (Value × Value)} (hkeys : ∀ e ∈ entries, (Json.key e.1).length ≤ 1024)
      (hvalues : ∀ e ∈ entries, IsModest e.2) : IsModest (.map entries)

namespace Json

mutual

def kinds : Value → List TokenKind
  | .text s => [.scalar s false]
  | .list xs => .flowSequenceStart :: itemKinds xs ++ [.flowSequenceEnd]
  | .map entries => .flowMappingStart :: entryKinds entries ++ [.flowMappingEnd]
  | v => [.scalar (String.ofList (line v)) true]

def itemKinds : List Value → List TokenKind
  | [] => []
  | [x] => kinds x
  | x :: rest => kinds x ++ .flowEntry :: itemKinds rest

def entryKinds : List (Value × Value) → List TokenKind
  | [] => []
  | [(k, v)] => .key :: .scalar k.shown false :: .value :: kinds v
  | (k, v) :: rest => .key :: .scalar k.shown false :: .value :: kinds v ++ .flowEntry :: entryKinds rest

end

/-- The text of a value is read as its tokens, wherever it stands inside of brackets. -/
def Lexes (v : Value) : Prop :=
  ∀ (blanks : Nat) {size depth : Nat} {before : List TokenKind} {rest : List Char} {stop : Char} {l : Lexer},
    depth ≠ 0 → endsFlowScalar stop = true →
    l.At size depth before (List.replicate blanks ' ' ++ (line v ++ stop :: rest)) →
    ∃ l', l.Leads l' ∧ l'.At size depth ((kinds v).reverse ++ before) (stop :: rest)

/-! Scalars -/

attribute [local simp] line

theorem lexes_of_isWord {v : Value} (hkinds : kinds v = [.scalar (String.ofList (line v)) true])
    (hword : IsWord (line v)) : Lexes v := by
  intro blanks size depth before rest stop l hdepth hstop h
  rw [hkinds]
  exact h.word blanks hdepth hword hstop

theorem lexes_text {s : String} (hs : IsBasic s.toList) : Lexes (.text s) := by
  intro blanks size depth before rest stop l hdepth hstop h
  rw [line] at h
  rw [kinds]
  exact h.quoted blanks hs

theorem isWordLetter_of_isNumeralChar {c : Char} (h : isNumeralChar c = true) : isWordLetter c = true :=
  Text.of_isAscii (p := fun c => isNumeralChar c = true → isWordLetter c = true) (by decide +kernel)
    (decide_eq_true (isAscii_of_isNumeralChar h)) h

theorem isWord_numeral {n : Numeral} (h : n.IsProper) (negative : Bool) : IsWord (signed negative n.text) := by
  obtain ⟨d, cs, hd, htext⟩ := h.exists_cons
  refine ⟨fun c hc => isWordLetter_of_isNumeralChar (chars_signed h.chars negative c hc), negative, d, cs, ?_, ?_⟩
  · rw [Char.isAlphanum, hd, Bool.or_true]
  · rw [htext]

theorem isWord_int (n : Int) : IsWord (line (.int n)) := by
  rw [line, toString_int, String.toList_ofList, ← text_toDigits]
  exact isWord_numeral (isProper_toDigits _) _

theorem isWord_float {negative : Bool} {m : Nat} {e : Int} (h : Binary64.IsCanonical m e) :
    IsWord (line (.float (.finite negative m e))) := by
  obtain ⟨n, hproper, -, -, htext⟩ := @Binary64.exists_numeral negative m e h
  have hline : line (.float (.finite negative m e)) = (Binary64.finite negative m e).text.toList := rfl
  rw [hline, htext, String.toList_ofList]
  exact isWord_numeral hproper negative

theorem isWord_null : IsWord (line .null) := by
  refine ⟨?_, false, 'n', _, rfl, rfl⟩
  simp [isWordLetter, isPlainAscii]

theorem isWord_bool (b : Bool) : IsWord (line (.bool b)) := by
  cases b with
  | false =>
    refine ⟨?_, false, 'f', _, rfl, rfl⟩
    simp [isWordLetter, isPlainAscii]
  | true =>
    refine ⟨?_, false, 't', _, rfl, rfl⟩
    simp [isWordLetter, isPlainAscii]

/-! Collections -/

theorem items_cons_cons (x y : Value) (ys : List Value) :
    items (x :: y :: ys) = line x ++ ',' :: ' ' :: items (y :: ys) := rfl

theorem itemKinds_cons_cons (x y : Value) (ys : List Value) :
    itemKinds (x :: y :: ys) = kinds x ++ .flowEntry :: itemKinds (y :: ys) := rfl

theorem members_cons_cons (k v : Value) (e : Value × Value) (es : List (Value × Value)) :
    members ((k, v) :: e :: es) = key k ++ ':' :: ' ' :: line v ++ ',' :: ' ' :: members (e :: es) := rfl

theorem entryKinds_cons_cons (k v : Value) (e : Value × Value) (es : List (Value × Value)) :
    entryKinds ((k, v) :: e :: es) =
      .key :: .scalar k.shown false :: .value :: kinds v ++ .flowEntry :: entryKinds (e :: es) := rfl

section

variable {size depth : Nat} {before : List TokenKind} {rest : List Char} {l : Lexer}

theorem lex_items {xs : List Value} (hxs : ∀ x ∈ xs, Lexes x) (hdepth : depth ≠ 0) (blanks : Nat)
    (h : l.At size depth before (List.replicate blanks ' ' ++ (items xs ++ ']' :: rest))) :
    ∃ l' blanks', l.Leads l' ∧
      l'.At size depth ((itemKinds xs).reverse ++ before) (List.replicate blanks' ' ' ++ ']' :: rest) := by
  induction xs generalizing l blanks before with
  | nil => exact ⟨l, blanks, .refl l, h⟩
  | cons x xs ih =>
    cases xs with
    | nil =>
      rw [items] at h
      rw [itemKinds]
      obtain ⟨l', hleads, hat⟩ := hxs x List.mem_cons_self blanks hdepth rfl h
      exact ⟨l', 0, hleads, hat⟩
    | cons y ys =>
      rw [items_cons_cons, List.append_assoc, List.cons_append] at h
      obtain ⟨l₁, hleads₁, hat₁⟩ := hxs x List.mem_cons_self blanks hdepth rfl h
      obtain ⟨l₂, hleads₂, hat₂, -⟩ := hat₁.comma 0
      obtain ⟨l₃, blanks', hleads₃, hat₃⟩ := ih (fun z hz => hxs z (List.mem_cons_of_mem _ hz)) 1 hat₂
      refine ⟨l₃, blanks', hleads₁.trans (hleads₂.trans hleads₃), ?_⟩
      rw [itemKinds_cons_cons, List.reverse_append, List.reverse_cons, List.append_assoc, List.append_assoc]
      exact hat₃

def HasKeys (entries : List (Value × Value)) : Prop :=
  ∀ e ∈ entries, ∃ key, e.1 = .text key ∧ IsBasic key.toList ∧ (string key).length ≤ 1024

theorem lex_members {entries : List (Value × Value)} (hkeys : HasKeys entries)
    (hvalues : ∀ e ∈ entries, Lexes e.2) (hdepth : depth ≠ 0) (blanks : Nat) (hallow : l.allowKey = true)
    (h : l.At size depth before (List.replicate blanks ' ' ++ (members entries ++ '\x7d' :: rest))) :
    ∃ l' blanks', l.Leads l' ∧
      l'.At size depth ((entryKinds entries).reverse ++ before) (List.replicate blanks' ' ' ++ '\x7d' :: rest) := by
  induction entries generalizing l blanks before with
  | nil => exact ⟨l, blanks, .refl l, h⟩
  | cons e entries ih =>
    obtain ⟨_, v⟩ := e
    obtain ⟨k, rfl, hbasic, hshort⟩ := hkeys _ List.mem_cons_self
    have hv := hvalues _ List.mem_cons_self
    cases entries with
    | nil =>
      rw [members, List.append_assoc, List.cons_append, List.cons_append] at h
      rw [entryKinds]
      obtain ⟨l₁, hleads₁, hat₁⟩ := h.key blanks hdepth hbasic hshort hallow
      obtain ⟨l₂, hleads₂, hat₂⟩ := hv 1 hdepth rfl hat₁
      refine ⟨l₂, 0, hleads₁.trans hleads₂, ?_⟩
      simpa [Value.shown] using hat₂
    | cons e es =>
      rw [members_cons_cons, List.append_assoc, List.append_assoc, List.cons_append, List.cons_append] at h
      obtain ⟨l₁, hleads₁, hat₁⟩ := h.key blanks hdepth hbasic hshort hallow
      obtain ⟨l₂, hleads₂, hat₂⟩ := hv 1 hdepth rfl hat₁
      obtain ⟨l₃, hleads₃, hat₃, hallow₃⟩ := hat₂.comma 0
      obtain ⟨l₄, blanks', hleads₄, hat₄⟩ := ih (fun e he => hkeys e (List.mem_cons_of_mem _ he))
        (fun e he => hvalues e (List.mem_cons_of_mem _ he)) 1 hallow₃ hat₃
      refine ⟨l₄, blanks', hleads₁.trans (hleads₂.trans (hleads₃.trans hleads₄)), ?_⟩
      rw [entryKinds_cons_cons]
      simpa [Value.shown] using hat₄

theorem lex_list {xs : List Value} (hxs : ∀ x ∈ xs, Lexes x) (blanks : Nat)
    (h : l.At size depth before (List.replicate blanks ' ' ++ (line (.list xs) ++ rest))) :
    ∃ l', l.Leads l' ∧ l'.At size depth ((kinds (.list xs)).reverse ++ before) rest := by
  rw [line, List.append_assoc, List.cons_append] at h
  obtain ⟨l₁, hleads₁, hat₁⟩ := h.openSequence blanks
  obtain ⟨l₂, blanks', hleads₂, hat₂⟩ := lex_items hxs (Nat.succ_ne_zero depth) 0 hat₁
  obtain ⟨l₃, hleads₃, hat₃⟩ := hat₂.closeSequence blanks'
  refine ⟨l₃, hleads₁.trans (hleads₂.trans hleads₃), ?_⟩
  rw [kinds]
  simpa using hat₃

theorem lex_map {entries : List (Value × Value)} (hkeys : HasKeys entries) (hvalues : ∀ e ∈ entries, Lexes e.2)
    (blanks : Nat) (h : l.At size depth before (List.replicate blanks ' ' ++ (line (.map entries) ++ rest))) :
    ∃ l', l.Leads l' ∧ l'.At size depth ((kinds (.map entries)).reverse ++ before) rest := by
  rw [line, List.append_assoc, List.cons_append] at h
  obtain ⟨l₁, hleads₁, hat₁, hallow₁⟩ := h.openMapping blanks
  obtain ⟨l₂, blanks', hleads₂, hat₂⟩ := lex_members hkeys hvalues (Nat.succ_ne_zero depth) 0 hallow₁ hat₁
  obtain ⟨l₃, hleads₃, hat₃⟩ := hat₂.closeMapping blanks'
  refine ⟨l₃, hleads₁.trans (hleads₂.trans hleads₃), ?_⟩
  rw [kinds]
  simpa using hat₃

end

theorem hasKeys_of {entries : List (Value × Value)}
    (hkeys : ∀ e ∈ entries, ∃ key, e.1 = .text key ∧ IsBasic key.toList)
    (hshort : ∀ e ∈ entries, (key e.1).length ≤ 1024) : HasKeys entries := by
  intro e he
  obtain ⟨key, hkey, hbasic⟩ := hkeys e he
  have hlen := hshort e he
  rw [hkey] at hlen
  exact ⟨key, hkey, hbasic, hlen⟩

theorem lexes {v : Value} (hv : v.IsPortable) (hmodest : v.IsModest) : Lexes v := by
  induction hv with
  | null => exact lexes_of_isWord rfl isWord_null
  | bool b => exact lexes_of_isWord rfl (isWord_bool b)
  | int n => exact lexes_of_isWord rfl (isWord_int n)
  | float h => exact lexes_of_isWord rfl (isWord_float h)
  | text h => exact lexes_text h
  | list _ ih =>
    cases hmodest with
    | list hall =>
      intro blanks size depth before rest stop l _ _ h
      exact lex_list (fun x hx => ih x hx (hall x hx)) blanks h
  | map hkeys _ _ ih =>
    cases hmodest with
    | map hshort hall =>
      intro blanks size depth before rest stop l _ _ h
      exact lex_map (hasKeys_of hkeys hshort) (fun e he => ih e he (hall e he)) blanks h

/-! The characters of a text -/

def IsPlain (cs : List Char) : Prop := ∀ c ∈ cs, isPlainAscii c = true

theorem IsPlain.append {cs ds : List Char} (h : IsPlain cs) (h' : IsPlain ds) : IsPlain (cs ++ ds) :=
  fun c hc => (List.mem_append.1 hc).elim (h c) (h' c)

theorem IsPlain.cons {c : Char} {cs : List Char} (hc : isPlainAscii c = true) (h : IsPlain cs) : IsPlain (c :: cs) :=
  List.forall_mem_cons.2 ⟨hc, h⟩

theorem isPlain_word {cs : List Char} (h : IsWord cs) : IsPlain cs := by
  intro c hc
  have hletter := h.letters c hc
  rw [isWordLetter, Bool.and_eq_true] at hletter
  exact hletter.1

theorem isPlain_string (s : String) : IsPlain (string s) := by
  have hinside : IsPlain (s.toList.flatMap escape) := by
    intro c hc
    obtain ⟨a, -, hc⟩ := List.mem_flatMap.1 hc
    exact isPlainAscii_escape a c hc
  exact (hinside.append (.cons rfl fun c hc => absurd hc List.not_mem_nil)).cons rfl

theorem isPlain_items {xs : List Value} (h : ∀ x ∈ xs, IsPlain (line x)) : IsPlain (items xs) := by
  induction xs with
  | nil => exact fun c hc => absurd hc List.not_mem_nil
  | cons x xs ih =>
    have hx := h x List.mem_cons_self
    cases xs with
    | nil => rwa [items]
    | cons y ys =>
      rw [items_cons_cons]
      exact hx.append ((ih fun z hz => h z (List.mem_cons_of_mem _ hz)).cons rfl |>.cons rfl)

theorem isPlain_members {entries : List (Value × Value)}
    (hkeys : ∀ e ∈ entries, ∃ key, e.1 = .text key)
    (hvalues : ∀ e ∈ entries, IsPlain (line e.2)) : IsPlain (members entries) := by
  induction entries with
  | nil => exact fun c hc => absurd hc List.not_mem_nil
  | cons e entries ih =>
    obtain ⟨_, v⟩ := e
    obtain ⟨k, rfl⟩ := hkeys _ List.mem_cons_self
    have hfirst : IsPlain (key (.text k) ++ ':' :: ' ' :: line v) :=
      (isPlain_string k).append ((hvalues _ List.mem_cons_self).cons rfl |>.cons rfl)
    cases entries with
    | nil => rwa [members]
    | cons e es =>
      rw [members_cons_cons]
      have hmore := ih (fun e he => hkeys e (List.mem_cons_of_mem _ he)) fun e he => hvalues e (List.mem_cons_of_mem _ he)
      exact hfirst.append (hmore.cons rfl |>.cons rfl)

theorem isPlain_line {v : Value} (hv : v.IsWritable) : IsPlain (line v) := by
  have hclose {c : Char} (hc : isPlainAscii c = true) : IsPlain [c] :=
    .cons hc fun c hc => absurd hc List.not_mem_nil
  induction hv with
  | null => exact isPlain_word isWord_null
  | bool b => exact isPlain_word (isWord_bool b)
  | int n => exact isPlain_word (isWord_int n)
  | float h => exact isPlain_word (isWord_float h)
  | text s => exact isPlain_string s
  | list _ ih =>
    rw [line]
    exact ((isPlain_items ih).append (hclose rfl)).cons rfl
  | map hkeys _ ih =>
    rw [line]
    exact ((isPlain_members hkeys ih).append (hclose rfl)).cons rfl

theorem tokens_line {entries : List (Value × Value)} (hportable : (Value.map entries).IsPortable)
    (hmodest : (Value.map entries).IsModest) :
    (Tokens.ofText (line (.map entries))).list.map (·.kind) = .streamStart :: (kinds (.map entries) ++ [.streamEnd]) ∧
      (Tokens.ofText (line (.map entries))).fault = none := by
  refine Lexer.ofText_of_leads (isPlain_line hportable.isWritable) fun l hat => ?_
  have hat' : l.At (line (.map entries)).length 0 [.streamStart]
      (List.replicate 0 ' ' ++ (line (.map entries) ++ [])) := by
    rw [List.append_nil]
    exact hat
  cases hportable with
  | map hkeys _ hvalues =>
    cases hmodest with
    | map hshort hall =>
      have hlexes (e) (he : e ∈ entries) : Lexes e.2 := lexes (hvalues e he) (hall e he)
      exact lex_map (hasKeys_of hkeys hshort) hlexes 0 hat'

end Json
end ReleaseMatch
