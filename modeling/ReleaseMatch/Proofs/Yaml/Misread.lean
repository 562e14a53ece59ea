import ReleaseMatch.Proofs.Yaml.Faults
import ReleaseMatch.Yaml.Load
set_option autoImplicit false

/-!
# Where documents go wrong beyond their markup

A fault in the value of a document is one of its markup, or it comes up in a scalar of it: one with the
tag of a boolean, a number or a point in time and a text that is none. The number of a character that
there is not is a fault of the text around it and not of any value.
-/
namespace ReleaseMatch.Yaml

/-! Scalars -/

/-- A fault of the markup, and not about the number of a character. -/
def InMarkup : ReadFault → Prop
  | .markup f => IsOfMarkup f
  | .text _ => False

def InText : ReadFault → Prop
  | .markup _ => False
  | .text _ => True

theorem refuse_inMarkup {α : Type} {R : α → Prop} {context : Option (Context × Mark)}
    {problem : Problem} {mark : Mark} (h : ∀ code, problem ≠ .noCharacter code) :
    Yields InMarkup R (refuse context problem mark) := h

mutual

theorem scalarText_inMarkup (n : Node) : Yields InMarkup (fun _ => True) (scalarText n) := by
  cases n with
  | scalar tag text mark => exact trivial
  | sequence tag items mark => exact refuse_inMarkup (by simp)
  | mapping tag entries mark => exact entryText_inMarkup mark entries

theorem entryText_inMarkup (mark : Mark) (entries : List (Node × Node)) :
    Yields InMarkup (fun _ => True) (entryText mark entries) := by
  cases entries with
  | nil => exact refuse_inMarkup (by simp)
  | cons e rest =>
    obtain ⟨key, value⟩ := e
    rw [entryText]
    split
    · exact scalarText_inMarkup value
    · exact entryText_inMarkup mark rest

end

theorem toBytes_inMarkup (text : String) (mark : Mark) :
    Yields InMarkup (fun _ => True) (toBytes text mark) := by
  rw [toBytes]
  split
  · exact refuse_inMarkup (by simp)
  · split
    · exact trivial
    · exact refuse_inMarkup (by simp)

theorem readBase_inText (base : Nat) (text : List Char) :
    Yields InText (fun _ => True) (readBase base text) := by
  rw [readBase]
  split <;> exact trivial

theorem toInt_inText (text : String) : Yields InText (fun _ => True) (toInt text) := by
  rw [toInt]
  split
  · exact trivial
  · next c rest _ =>
    dsimp only
    generalize (if (c = '-' || c = '+') = true then (c :: rest).drop 1 else c :: rest) = body
    split
    · exact trivial
    · exact trivial
    · exact (readBase_inText ..).andPure
    · exact (readBase_inText ..).andPure
    · exact (readBase_inText ..).andPure
    · split
      · exact (Yields.mapM (readBase_inText 10) _).andPure
      · exact (readBase_inText ..).andPure

theorem toFloatPart_inText (text : List Char) :
    Yields InText (fun _ => True) (toFloatPart text) := by
  rw [toFloatPart]
  split <;> exact trivial

theorem toFloat_inText (text : String) : Yields InText (fun _ => True) (toFloat text) := by
  rw [toFloat]
  split
  · exact trivial
  · next c rest _ =>
    dsimp only
    generalize (if (c = '-' || c = '+') = true then (c :: rest).drop 1 else c :: rest) = body
    split
    · exact trivial
    · split
      · exact trivial
      · split
        · exact (Yields.mapM toFloatPart_inText _).andPure
        · exact (toFloatPart_inText _).andPure

theorem toBool_inText (text : String) : Yields InText (fun _ => True) (toBool text) := by
  simp only [toBool]
  split
  · exact trivial
  · split <;> exact trivial

theorem dateFault_inText {α : Type} (r : Except Calendar.Fault α) :
    Yields InText (fun _ => True) (dateFault r) := by
  cases r <;> exact trivial

theorem toMoment_inText (text : String) : Yields InText (fun _ => True) (toMoment text) := by
  simp only [toMoment]
  split
  · exact trivial
  · split
    · exact (dateFault_inText _).bind fun _ _ => .done trivial
    · split
      all_goals
        split
        · exact trivial
        · exact (dateFault_inText _).bind fun _ _ => (dateFault_inText _).bind fun _ _ => .done trivial

def textTags : List Tag := [.bool, .int, .float, .timestamp]

theorem scalarValue_yields (n : Node) :
    Yields (fun e => InMarkup e ∨ InText e ∧ n.tag ∈ textTags) (fun _ => True) (scalarValue n) := by
  have hmarkup {R : String → Prop} (h : Yields InMarkup R (scalarText n)) :
      Yields (fun e => InMarkup e ∨ InText e ∧ n.tag ∈ textTags) R (scalarText n) :=
    h.mono (fun _ => .inl) fun _ h => h
  have htext {α : Type} {x : Result α} (htag : n.tag ∈ textTags)
      (h : Yields InText (fun _ => True) x) :
      Yields (fun e => InMarkup e ∨ InText e ∧ n.tag ∈ textTags) (fun _ => True) x :=
    h.mono (fun _ h => .inr ⟨h, htag⟩) fun _ h => h
  have hread := hmarkup (scalarText_inMarkup n)
  rw [scalarValue]
  split
  · exact hread.bind fun _ _ => .done trivial
  · next htag =>
    exact hread.bind fun text _ => (htext (by rw [htag]; decide) (toBool_inText text)).andPure
  · next htag =>
    exact hread.bind fun text _ => (htext (by rw [htag]; decide) (toInt_inText text)).andPure
  · next htag =>
    exact hread.bind fun text _ => (htext (by rw [htag]; decide) (toFloat_inText text)).andPure
  · exact hread.bind fun text _ =>
      ((toBytes_inMarkup text n.mark).mono (fun _ => .inl) fun _ h => h).andPure
  · next htag =>
    exact hread.bind fun text _ => (htext (by rw [htag]; decide) (toMoment_inText text)).andPure
  · exact hread.bind fun _ _ => .done trivial
  · exact trivial
  · exact trivial
  · exact trivial
  · exact trivial
  · exact trivial
  · exact .inl fun code => by simp

/-- A scalar at fault: its text is not what its tag says. -/
structure IsMisread (n : Node) (f : TextFault) : Prop where
  tag : n.tag ∈ textTags
  fault : scalarValue n = .error (.text f)

theorem isMisread_of_error {n : Node} {f : TextFault} (h : scalarValue n = .error (.text f)) :
    IsMisread n f := by
  have hyields := scalarValue_yields n
  rw [h] at hyields
  exact ⟨(hyields.resolve_left id).2, h⟩

theorem inMarkup_of_error {n : Node} {f : Fault} (h : scalarValue n = .error (.markup f)) :
    InMarkup (.markup f) := by
  have hyields := scalarValue_yields n
  rw [h] at hyields
  exact hyields.resolve_right fun h => h.1

/-! Collections -/

/-- A property of nodes that goes over to what is in them. -/
structure Inherited (P : Node → Prop) : Prop where
  item {tag : Tag} {items : List Node} {mark : Mark} :
    P (.sequence tag items mark) → ∀ n ∈ items, P n
  entry {tag : Tag} {entries : List (Node × Node)} {mark : Mark} :
    P (.mapping tag entries mark) → ∀ e ∈ entries, P e.1 ∧ P e.2

/-- A fault of the markup, or of a scalar among some nodes. -/
def BlamedOn (P : Node → Prop) : ReadFault → Prop
  | .markup f => InMarkup (.markup f)
  | .text f => ∃ part, P part ∧ IsMisread part f

variable {P : Node → Prop}

theorem InMarkup.blamedOn {e : ReadFault} (h : InMarkup e) : BlamedOn P e := by
  cases e with
  | markup f => exact h
  | text f => exact absurd h id

theorem refuse_blamedOn {α : Type} {R : α → Prop} {context : Option (Context × Mark)}
    {problem : Problem} {mark : Mark} (h : ∀ code, problem ≠ .noCharacter code) :
    Yields (BlamedOn P) R (refuse context problem mark) := h

theorem waiting_yields {n : Node} (hn : P n) : Yields (BlamedOn P) (fun ns => ∀ m ∈ ns, P m)
    (waiting n) := by
  rw [waiting]
  cases hvalue : scalarValue n with
  | error e =>
    cases e with
    | markup f => exact inMarkup_of_error hvalue
    | text f => exact ⟨n, hn, isMisread_of_error hvalue⟩
  | ok o =>
    cases o with
    | some v => exact .done (by simp)
    | none => exact .done (by simpa using hn)

theorem asKey_cases (n : Node) : n.asKey = n ∨ n.asKey.tag = .str := by
  unfold Node.asKey
  split
  · exact .inr rfl
  · exact .inr rfl
  · exact .inr rfl
  · exact .inl rfl

theorem waiting_asKey_yields {n : Node} (hn : P n) :
    Yields (BlamedOn P) (fun _ => True) (waiting n.asKey) := by
  obtain heq | hstr := asKey_cases n
  · rw [heq]
    exact (waiting_yields hn).mono (fun _ h => h) fun _ _ => trivial
  · -- With the tag of a text there is no scalar to blame.
    have hnone := waiting_yields (P := fun m => m = n.asKey) (n := n.asKey) rfl
    refine hnone.mono (fun e he => ?_) fun _ _ => trivial
    cases e with
    | markup f => exact he
    | text f =>
      obtain ⟨part, rfl, hmisread⟩ := he
      exact absurd hmisread.tag (by rw [hstr]; decide)

def IsEntryOf (P : Node → Prop) (e : Node × Node) : Prop := ∃ key, P key ∧ e.1 = key.asKey ∧ P e.2

theorem isEntryOf_of_mem_ownNodes (hP : Inherited P) {tag : Tag} {entries : List (Node × Node)} {mark : Mark}
    (h : P (.mapping tag entries mark)) : ∀ e ∈ ownNodes entries, IsEntryOf P e := by
  intro e he
  obtain ⟨e', hmem, rfl⟩ := List.mem_map.1 he
  obtain ⟨hkey, hvalue⟩ := hP.entry h e' (List.mem_filter.1 hmem).1
  exact ⟨e'.1, hkey, rfl, hvalue⟩

mutual

theorem takenNodes_yields (hP : Inherited P) (mark : Mark) (entries : List (Node × Node))
    (h : ∀ e ∈ entries, P e.2) :
    Yields InMarkup (fun es => ∀ e ∈ es, IsEntryOf P e) (takenNodes mark entries) := by
  cases entries with
  | nil => exact .done (by simp)
  | cons e rest =>
    obtain ⟨key, value⟩ := e
    obtain ⟨hvalue, hrest⟩ := List.forall_mem_cons.1 h
    rw [takenNodes]
    split
    · exact (sourceNodes_yields hP mark value hvalue).append (takenNodes_yields hP mark rest hrest)
    · exact takenNodes_yields hP mark rest hrest

theorem sourceNodes_yields (hP : Inherited P) (mark : Mark) (n : Node) (h : P n) :
    Yields InMarkup (fun es => ∀ e ∈ es, IsEntryOf P e) (sourceNodes mark n) := by
  cases n with
  | scalar tag text m => exact refuse_inMarkup (by simp)
  | mapping tag entries m =>
    rw [sourceNodes]
    have hvalues : ∀ e ∈ entries, P e.2 := fun e he => (hP.entry h e he).2
    refine (takenNodes_yields hP m entries hvalues).bind fun taken htaken => ?_
    exact .done (List.forall_mem_append.2 ⟨htaken, isEntryOf_of_mem_ownNodes hP h⟩)
  | sequence tag items m =>
    rw [sourceNodes]
    exact itemNodes_yields hP mark items (hP.item h)

theorem itemNodes_yields (hP : Inherited P) (mark : Mark) (items : List Node)
    (h : ∀ n ∈ items, P n) :
    Yields InMarkup (fun es => ∀ e ∈ es, IsEntryOf P e) (itemNodes mark items) := by
  cases items with
  | nil => exact .done (by simp)
  | cons n rest =>
    obtain ⟨hn, hrest⟩ := List.forall_mem_cons.1 h
    cases n with
    | scalar tag text m => exact refuse_inMarkup (by simp)
    | sequence tag items m => exact refuse_inMarkup (by simp)
    | mapping tag entries m =>
      rw [itemNodes]
      have hvalues : ∀ e ∈ entries, P e.2 := fun e he => (hP.entry hn e he).2
      refine (takenNodes_yields hP m entries hvalues).bind fun taken htaken => ?_
      refine (itemNodes_yields hP mark rest hrest).bind fun more hmore => ?_
      exact .done (List.forall_mem_append.2 ⟨hmore,
        List.forall_mem_append.2 ⟨htaken, isEntryOf_of_mem_ownNodes hP hn⟩⟩)

end

theorem waitingEntries_yields {mark : Mark} {entries : List (Node × Node)}
    (h : ∀ e ∈ entries, IsEntryOf P e) :
    Yields (BlamedOn P) (fun ns => ∀ n ∈ ns, P n) (waitingEntries mark entries) := by
  induction entries with
  | nil => exact .done (by simp)
  | cons e rest ih =>
    obtain ⟨⟨key, hkey, heq, hvalue⟩, hrest⟩ := List.forall_mem_cons.1 h
    obtain ⟨key', value⟩ := e
    obtain rfl : key' = key.asKey := heq
    rw [waitingEntries]
    refine (waiting_asKey_yields hkey).bind fun ns _ => ?_
    split
    · exact (waiting_yields hvalue).append (ih hrest)
    · exact refuse_blamedOn (by simp)

theorem waitingItems_yields {items : List Node} (h : ∀ n ∈ items, P n) :
    Yields (BlamedOn P) (fun ns => ∀ n ∈ ns, P n) (waitingItems items) := by
  induction items with
  | nil => exact .done (by simp)
  | cons n rest ih =>
    obtain ⟨hn, hrest⟩ := List.forall_mem_cons.1 h
    rw [waitingItems]
    exact (waiting_yields hn).append (ih hrest)

theorem waitingPairs_yields (hP : Inherited P) {context : Context × Mark} {items : List Node}
    (h : ∀ n ∈ items, P n) :
    Yields (BlamedOn P) (fun ns => ∀ n ∈ ns, P n) (waitingPairs context items) := by
  fun_induction waitingPairs context items with
  | case1 => exact .done (by simp)
  | case2 tag key value mark rest ih =>
    obtain ⟨hn, hrest⟩ := List.forall_mem_cons.1 h
    obtain ⟨hkey, hvalue⟩ := hP.entry hn (key, value) List.mem_cons_self
    have hpair : ∀ m ∈ [key, value], P m := by simp [hkey, hvalue]
    exact (waitingItems_yields hpair).append (ih hrest)
  | case3 => exact refuse_blamedOn (by simp)
  | case4 => exact refuse_blamedOn (by simp)

theorem pairsOf_yields (hP : Inherited P) (what : String) {n : Node} (hn : P n) :
    Yields (BlamedOn P) (fun ns => ∀ n ∈ ns, P n) (pairsOf what n) := by
  cases n with
  | sequence tag items mark => exact waitingPairs_yields hP (hP.item hn)
  | scalar tag text mark => exact refuse_blamedOn (by simp)
  | mapping tag entries mark => exact refuse_blamedOn (by simp)

theorem inside_yields (hP : Inherited P) {n : Node} (hn : P n) :
    Yields (BlamedOn P) (fun ns => ∀ n ∈ ns, P n) (inside n) := by
  unfold inside
  split
  · exact pairsOf_yields hP _ hn
  · exact pairsOf_yields hP _ hn
  · exact waitingItems_yields (hP.item hn)
  · exact refuse_blamedOn (by simp)
  · next tag entries mark _ _ _ =>
    have hvalues : ∀ e ∈ entries, P e.2 := fun e he => (hP.entry hn e he).2
    have htaken := takenNodes_yields hP mark entries hvalues
    refine (htaken.mono (fun _ h => h.blamedOn) fun _ h => h).bind fun taken htaken => ?_
    exact waitingEntries_yields (List.forall_mem_append.2 ⟨htaken, isEntryOf_of_mem_ownNodes hP hn⟩)
  · exact refuse_blamedOn (by simp)

theorem insideAll_yields (hP : Inherited P) {ns : List Node} (h : ∀ n ∈ ns, P n) :
    Yields (BlamedOn P) (fun ns => ∀ n ∈ ns, P n) (insideAll ns) := by
  induction ns with
  | nil => exact .done (by simp)
  | cons n rest ih =>
    obtain ⟨hn, hrest⟩ := List.forall_mem_cons.1 h
    rw [insideAll]
    exact (inside_yields hP hn).append (ih hrest)

theorem checkGenerations_yields (hP : Inherited P) (fuel : Nat) {ns : List Node}
    (h : ∀ n ∈ ns, P n) : Yields (BlamedOn P) (fun _ => True) (checkGenerations fuel ns) := by
  -- What waits in one generation is in the one before, so the property goes down with the fuel.
  induction fuel generalizing ns with
  | zero => exact trivial
  | succ fuel ih =>
    cases ns with
    | nil => exact trivial
    | cons n rest =>
      rw [checkGenerations]
      · exact (insideAll_yields hP h).bind fun inner hinner => ih hinner
      · simp

theorem construct_yields (hP : Inherited P) {n : Node} (hn : P n) (fuel : Nat) :
    Yields (BlamedOn P) (fun _ => True) (n.construct fuel) := by
  rw [Node.construct]
  refine (waiting_yields hn).bind fun ns hns => ?_
  exact (checkGenerations_yields hP fuel hns).andPure

/-- A part of a node: the node itself, and what is in a part of it. -/
inductive Node.Part (n : Node) : Node → Prop
  | self : Part n n
  | item {tag : Tag} {items : List Node} {mark : Mark} {m : Node}
      (h : Part n (.sequence tag items mark)) (hm : m ∈ items) : Part n m
  | key {tag : Tag} {entries : List (Node × Node)} {mark : Mark} {e : Node × Node}
      (h : Part n (.mapping tag entries mark)) (he : e ∈ entries) : Part n e.1
  | value {tag : Tag} {entries : List (Node × Node)} {mark : Mark} {e : Node × Node}
      (h : Part n (.mapping tag entries mark)) (he : e ∈ entries) : Part n e.2

theorem inherited_part (n : Node) : Inherited n.Part where
  item h _ hm := .item h hm
  entry h _ he := ⟨.key h he, .value h he⟩

theorem exists_isMisread_of_construct {n : Node} {fuel : Nat} {f : TextFault}
    (h : n.construct fuel = .error (.text f)) : ∃ part, n.Part part ∧ IsMisread part f := by
  have hyields := construct_yields (inherited_part n) .self fuel
  rwa [h] at hyields

/-! Documents -/

/-- A text whose fault is none of the markup: an escape is for a code beyond those of all characters, or a
scalar in the document is misread, and that is the first fault in its value. -/
inductive Misread (text : List Char) : Prop
  | escape {f : Fault} {code : Nat} (hchars : ∀ c ∈ text, isAcceptable c = true)
      (hread : Node.ofText? text = .error f) (hcode : f.problem = .noCharacter code) (hlimit : codeLimit ≤ code)
  | scalar {n part : Node} {f : TextFault} (hchars : ∀ c ∈ text, isAcceptable c = true)
      (hread : Node.ofText? text = .ok (some n)) (hpart : n.Part part) (hmisread : IsMisread part f)
      (hvalue : n.construct (text.length + 1) = .error (.text f))

theorem otherKind_markup_isSome_iff {f : Fault} {text : List Char} :
    (LoadFault.markup f text).otherKind.isSome = true ↔ ∃ code, f.problem = .noCharacter code := by
  rw [LoadFault.otherKind]
  split
  · next code hcode => simp [hcode]
  · next hcode => simpa using hcode

theorem load_otherKind_iff {text : List Char} (hwhole : hasHalf text = false) :
    (∃ f, load text = .error f ∧ f.otherKind.isSome = true) ↔ Misread text := by
  have hfind : text.findIdx? (!isAcceptable ·) = none ↔ ∀ c ∈ text, isAcceptable c = true := by
    simp [List.findIdx?_eq_none_iff]
  constructor
  · rintro ⟨f, hload, hkind⟩
    rw [load] at hload
    split at hload
    · obtain rfl := Except.error.inj hload
      exact absurd hkind (by simp [LoadFault.otherKind])
    · next hnone =>
      have hchars := hfind.1 hnone
      dsimp only at hload
      split at hload
      · next g hread =>
        obtain rfl := Except.error.inj hload
        obtain ⟨code, hcode⟩ := otherKind_markup_isSome_iff.1 hkind
        exact .escape hchars hread hcode (codeLimit_le_of_ofText? hwhole hread hcode)
      · exact absurd hload (by simp)
      · next n hread =>
        cases hvalue : n.construct (text.length + 1) with
        | ok v =>
          rw [hvalue] at hload
          cases hload
        | error e =>
          rw [hvalue] at hload
          obtain rfl := Except.error.inj hload
          cases e with
          | markup g =>
            obtain ⟨code, hcode⟩ := otherKind_markup_isSome_iff.1 hkind
            -- A fault of the markup that comes up with the value is not about a character.
            have hyields := construct_yields (inherited_part n) .self (text.length + 1)
            rw [hvalue] at hyields
            exact absurd hcode (hyields code)
          | text g =>
            obtain ⟨part, hpart, hmisread⟩ := exists_isMisread_of_construct hvalue
            exact .scalar hchars hread hpart hmisread hvalue
  · intro h
    cases h with
    | @escape f code hchars hread hcode _ =>
      refine ⟨.markup f text, ?_, otherKind_markup_isSome_iff.2 ⟨code, hcode⟩⟩
      rw [load, hfind.2 hchars]
      simp only [hread]
    | @scalar n part f hchars hread _ _ hvalue =>
      refine ⟨.reading f, ?_, rfl⟩
      rw [load, hfind.2 hchars]
      simp only [hread, hvalue]
      rfl

end ReleaseMatch.Yaml
