import ReleaseMatch.Proofs.Number.Numeral
import ReleaseMatch.Yaml.Node
set_option autoImplicit false

/-!
# Forms of plain scalars

What a form takes from the start of a text, and what it has to take: a floating point number takes a
point, and a number without one takes no exponent. So the tag of a numeral is told by its parts.
-/
namespace ReleaseMatch.Yaml

namespace Form

variable {f g : Form} {test : Char → Bool} {cs used rest : List Char}

/-! What is taken -/

theorem mem_char {c : Char} (hc : test c = true) : rest ∈ char test (c :: rest) := by
  rw [char, if_pos hc]
  exact List.mem_singleton_self rest

theorem mem_seq {between : List Char} (hf : between ∈ f cs) (hg : rest ∈ g between) : rest ∈ seq f g cs :=
  List.mem_flatMap.2 ⟨between, hf, hg⟩

theorem mem_opt (h : rest ∈ f cs) : rest ∈ opt f cs := List.mem_append_left _ h

theorem mem_opt_self : cs ∈ opt f cs := List.mem_append_right _ (List.mem_singleton_self cs)

theorem mem_many (h : ∀ c ∈ used, test c = true) : rest ∈ many test (used ++ rest) := by
  induction used with
  | nil =>
    cases rest with
    | nil => exact List.mem_singleton_self []
    | cons c cs =>
      rw [List.nil_append, many]
      split
      · exact List.mem_cons_self
      · exact List.mem_singleton_self _
  | cons c used ih =>
    rw [List.cons_append, many, if_pos (h c List.mem_cons_self)]
    exact List.mem_cons_of_mem _ (ih fun d hd => h d (List.mem_cons_of_mem _ hd))

theorem mem_some1 {c : Char} (hc : test c = true) (h : ∀ c ∈ used, test c = true) :
    rest ∈ some1 test (c :: (used ++ rest)) :=
  mem_seq (mem_char hc) (mem_many h)

theorem mem_all_nil : cs ∈ all [] cs := List.mem_singleton_self cs

theorem mem_any {fs : List Form} (hf : f ∈ fs) (h : rest ∈ f cs) : rest ∈ any fs cs := by
  induction fs with
  | nil => cases hf
  | cons g gs ih =>
    rcases List.mem_cons.1 hf with rfl | hf
    · exact List.mem_append_left _ h
    · exact List.mem_append_right _ (ih hf)

theorem fits_iff : f.fits cs = true ↔ [] ∈ f cs := by
  rw [fits, List.any_eq_true]
  constructor
  · rintro ⟨rest, hmem, hnil⟩
    rwa [List.isEmpty_iff.1 hnil] at hmem
  · intro h
    exact ⟨[], h, rfl⟩

/-! What has to be taken -/

/-- Whatever the form takes from a text has a property. -/
def Takes (P : List Char → Prop) (f : Form) : Prop :=
  ∀ cs, ∀ rest ∈ f cs, ∃ used, cs = used ++ rest ∧ P used

def TakesEach (P : List Char → Prop) (fs : List Form) : Prop := ∀ f ∈ fs, Takes P f

/-- A property that two texts put together have when both have it. -/
structure Joins (P : List Char → Prop) : Prop where
  nil : P []
  append {used more : List Char} (h : P used) (h' : P more) : P (used ++ more)

variable {P Q : List Char → Prop}

theorem TakesEach.nil : TakesEach P [] := fun _ hf => absurd hf List.not_mem_nil

theorem TakesEach.cons {fs : List Form} (hf : Takes P f) (hfs : TakesEach P fs) : TakesEach P (f :: fs) :=
  List.forall_mem_cons.2 ⟨hf, hfs⟩

theorem Takes.mono (h : Takes P f) (hPQ : ∀ used, P used → Q used) : Takes Q f := by
  intro cs rest hrest
  obtain ⟨used, hcs, hP⟩ := h cs rest hrest
  exact ⟨used, hcs, hPQ used hP⟩

theorem takes_char (h : ∀ c, test c = true → P [c]) : Takes P (char test) := by
  intro cs rest hrest
  cases cs with
  | nil => cases hrest
  | cons c cs =>
    rw [char] at hrest
    split at hrest
    · next hc =>
      obtain rfl := List.mem_singleton.1 hrest
      exact ⟨[c], rfl, h c hc⟩
    · cases hrest

theorem Takes.seq {R : List Char → Prop} (hf : Takes P f) (hg : Takes Q g)
    (hR : ∀ used more, P used → Q more → R (used ++ more)) : Takes R (seq f g) := by
  intro cs rest hrest
  obtain ⟨between, hbetween, hmore⟩ := List.mem_flatMap.1 hrest
  obtain ⟨used, rfl, hP⟩ := hf cs between hbetween
  obtain ⟨more, rfl, hQ⟩ := hg between rest hmore
  exact ⟨used ++ more, (List.append_assoc ..).symm, hR used more hP hQ⟩

theorem Takes.alt (hf : Takes P f) (hg : Takes P g) : Takes P (alt f g) := by
  intro cs rest hrest
  rcases List.mem_append.1 hrest with hrest | hrest
  · exact hf cs rest hrest
  · exact hg cs rest hrest

theorem TakesEach.any {fs : List Form} (h : TakesEach P fs) : Takes P (any fs) := by
  induction fs with
  | nil =>
    intro cs rest hrest
    cases hrest
  | cons f fs ih => exact (h f List.mem_cons_self).alt (ih fun g hg => h g (List.mem_cons_of_mem _ hg))

section

variable (hP : Joins P)

include hP

theorem Takes.opt (hf : Takes P f) : Takes P (opt f) := by
  intro cs rest hrest
  rcases List.mem_append.1 hrest with hrest | hrest
  · exact hf cs rest hrest
  · obtain rfl := List.mem_singleton.1 hrest
    exact ⟨[], rfl, hP.nil⟩

theorem takes_many (h : ∀ c, test c = true → P [c]) : Takes P (many test) := by
  intro cs
  induction cs with
  | nil =>
    intro rest hrest
    exact ⟨[], (List.mem_singleton.1 hrest).symm, hP.nil⟩
  | cons c cs ih =>
    intro rest hrest
    rw [many] at hrest
    split at hrest
    · next hc =>
      rcases List.mem_cons.1 hrest with rfl | hrest
      · exact ⟨[], rfl, hP.nil⟩
      · obtain ⟨used, rfl, hused⟩ := ih rest hrest
        exact ⟨c :: used, rfl, hP.append (h c hc) hused⟩
    · obtain rfl := List.mem_singleton.1 hrest
      exact ⟨[], rfl, hP.nil⟩

theorem takes_some1 (h : ∀ c, test c = true → P [c]) : Takes P (some1 test) :=
  (takes_char h).seq (takes_many hP h) fun _ _ => hP.append

theorem TakesEach.all {fs : List Form} (h : TakesEach P fs) : Takes P (all fs) := by
  induction fs with
  | nil =>
    intro cs rest hrest
    obtain rfl := List.mem_singleton.1 hrest
    exact ⟨[], rfl, hP.nil⟩
  | cons f fs ih =>
    exact (h f List.mem_cons_self).seq (ih fun g hg => h g (List.mem_cons_of_mem _ hg)) fun _ _ => hP.append

theorem Takes.rounds (hf : Takes P f) (fuel : ℕ) : Takes P (rounds f fuel) := by
  induction fuel with
  | zero =>
    intro cs rest hrest
    cases hrest
  | succ fuel ih =>
    intro cs rest hrest
    obtain ⟨between, hbetween, hmore⟩ := List.mem_flatMap.1 hrest
    obtain ⟨used, rfl, hused⟩ := hf cs between hbetween
    rcases List.mem_append.1 hmore with hmore | hmore
    · obtain ⟨more, rfl, hused'⟩ := ih between rest hmore
      exact ⟨used ++ more, (List.append_assoc ..).symm, hP.append hused hused'⟩
    · obtain rfl := List.mem_singleton.1 hmore
      exact ⟨used, rfl, hused⟩

end

theorem Takes.not_fits (hf : Takes P f) (hP : ¬P cs) : ¬f.fits cs = true := fun hfits => by
  obtain ⟨used, rfl, hused⟩ := hf cs [] (fits_iff.1 hfits)
  rw [List.append_nil] at hP
  exact hP hused

theorem joins_true : Joins fun _ => True := ⟨trivial, fun _ _ => trivial⟩

theorem TakesEach.all_of_mem {c : Char} {fs : List Form} (hfs : TakesEach (fun _ => True) fs) (hf : f ∈ fs)
    (hc : Takes (c ∈ ·) f) : Takes (c ∈ ·) (Form.all fs) := by
  induction fs with
  | nil => cases hf
  | cons g gs ih =>
    obtain ⟨hg, hgs⟩ := List.forall_mem_cons.1 hfs
    rcases List.mem_cons.1 hf with rfl | hf
    · exact hc.seq (TakesEach.all joins_true hgs) fun _ _ h _ => List.mem_append_left _ h
    · exact hg.seq (ih hgs hf) fun _ _ _ h => List.mem_append_right _ h

end Form

open Form

/-! Numbers -/

theorem floatForm_takes (fuel : ℕ) : Takes ('.' ∈ ·) (floatForm fuel) := by
  have hchar (test : Char → Bool) : Takes (fun _ => True) (char test) := takes_char fun _ _ => trivial
  have hmany (test : Char → Bool) : Takes (fun _ => True) (many test) := takes_many joins_true fun _ _ => trivial
  have hsome (test : Char → Bool) : Takes (fun _ => True) (some1 test) := takes_some1 joins_true fun _ _ => trivial
  have hsign : Takes (fun _ => True) signForm := (hchar _).opt joins_true
  have hsixtieths : Takes (fun _ => True) (sixtieths fuel) :=
    (TakesEach.all joins_true <| .cons (hchar _) <| .cons ((hchar _).opt joins_true) <| .cons (hchar _) .nil).rounds
      joins_true fuel
  have hexponent : Takes (fun _ => True) exponentForm :=
    (TakesEach.all joins_true <| .cons (hchar _) <| .cons (hchar _) <| .cons (hsome _) .nil).opt joins_true
  have hpoint : Takes ('.' ∈ ·) (lit '.') := takes_char fun c hc => by
    rw [eq_of_beq hc]
    exact List.mem_singleton_self _
  refine TakesEach.any (.cons (TakesEach.all_of_mem ?_ (by simp) hpoint) <|
    .cons (TakesEach.all_of_mem ?_ (by simp) hpoint) <| .cons (TakesEach.all_of_mem ?_ (by simp) hpoint) .nil)
  · exact .cons hsign <| .cons (hchar _) <| .cons (hmany _) <| .cons (hchar _) <| .cons (hmany _) <|
      .cons hexponent .nil
  · exact .cons (hchar _) <| .cons (hchar _) <| .cons (hmany _) <| .cons hexponent .nil
  · exact .cons hsign <| .cons (hchar _) <| .cons (hmany _) <| .cons hsixtieths <| .cons (hchar _) <|
      .cons (hmany _) .nil

/-- The letter of an exponent is a digit only behind the letter for base sixteen. -/
theorem intForm_takes (fuel : ℕ) : Takes (fun used => 'e' ∈ used → 'x' ∈ used) (intForm fuel) := by
  have hjoins : Joins fun used => 'e' ∈ used → 'x' ∈ used := by
    refine ⟨fun h => absurd h List.not_mem_nil, fun h h' he => ?_⟩
    rcases List.mem_append.1 he with he | he
    · exact List.mem_append_left _ (h he)
    · exact List.mem_append_right _ (h' he)
  have hno {test : Char → Bool} (htest : test 'e' = false) (c : Char) (hc : test c = true) :
      'e' ∈ [c] → 'x' ∈ [c] := by
    intro he
    rw [← List.mem_singleton.1 he, htest] at hc
    cases hc
  have hchar {test : Char → Bool} (htest : test 'e' = false) :
      Takes (fun used => 'e' ∈ used → 'x' ∈ used) (char test) := takes_char (hno htest)
  have hx : Takes ('x' ∈ ·) (lit 'x') := takes_char fun c hc => by
    rw [eq_of_beq hc]
    exact List.mem_singleton_self _
  have hmany {test : Char → Bool} (htest : test 'e' = false) :
      Takes (fun used => 'e' ∈ used → 'x' ∈ used) (many test) := takes_many hjoins (hno htest)
  have hsome {test : Char → Bool} (htest : test 'e' = false) :
      Takes (fun used => 'e' ∈ used → 'x' ∈ used) (some1 test) := takes_some1 hjoins (hno htest)
  have hsixtieths : Takes (fun used => 'e' ∈ used → 'x' ∈ used) (sixtieths fuel) :=
    (TakesEach.all hjoins <| .cons (hchar rfl) <| .cons ((hchar rfl).opt hjoins) <| .cons (hchar rfl) .nil).rounds
      hjoins fuel
  refine Takes.seq ((hchar rfl).opt hjoins) (TakesEach.any ?_) fun _ _ => hjoins.append
  refine .cons (TakesEach.all hjoins ?_) <| .cons ?_ <| .cons (hchar rfl) <| .cons ?_ <| .cons ?_ <|
    .cons (TakesEach.all hjoins ?_) .nil
  · exact .cons (hchar rfl) <| .cons (hchar rfl) <| .cons (hsome rfl) .nil
  · exact (hchar rfl).seq (hsome rfl) fun _ _ => hjoins.append
  · exact (hchar rfl).seq (hmany rfl) fun _ _ => hjoins.append
  · refine Takes.mono (TakesEach.all_of_mem ?_ (by simp) hx) fun _ h _ => h
    exact .cons (takes_char fun _ _ => trivial) <| .cons (takes_char fun _ _ => trivial) <|
      .cons (takes_some1 joins_true fun _ _ => trivial) .nil
  · exact .cons (hchar rfl) <| .cons (hmany rfl) <| .cons hsixtieths .nil

theorem timestampForm_takes : Takes ('e' ∉ ·) timestampForm := by
  have hjoins : Joins ('e' ∉ ·) := by
    refine ⟨List.not_mem_nil, fun h h' he => ?_⟩
    exact (List.mem_append.1 he).elim h h'
  have hno {test : Char → Bool} (htest : test 'e' = false) (c : Char) (hc : test c = true) : 'e' ∉ [c] := by
    intro he
    rw [← List.mem_singleton.1 he, htest] at hc
    cases hc
  have hchar {test : Char → Bool} (htest : test 'e' = false) : Takes ('e' ∉ ·) (char test) :=
    takes_char (hno htest)
  have hdigits (least more : ℕ) : Takes ('e' ∉ ·) (digitsForm least more) := by
    refine TakesEach.all hjoins fun f hf => ?_
    rcases List.mem_append.1 hf with hf | hf
    · rw [List.eq_of_mem_replicate hf]
      exact hchar rfl
    · rw [List.eq_of_mem_replicate hf]
      exact (hchar rfl).opt hjoins
  have hseq {f g : Form} (hf : Takes ('e' ∉ ·) f) (hg : Takes ('e' ∉ ·) g) : Takes ('e' ∉ ·) (seq f g) :=
    hf.seq hg fun _ _ => hjoins.append
  have hmany {test : Char → Bool} (htest : test 'e' = false) : Takes ('e' ∉ ·) (many test) :=
    takes_many hjoins (hno htest)
  have hoffset : Takes ('e' ∉ ·) (all [char (fun c => c == '-' || c == '+'), digitsForm 1 1,
      opt (seq (lit ':') (digitsForm 2 0))]) :=
    TakesEach.all hjoins <| .cons (hchar rfl) <| .cons (hdigits 1 1) <|
      .cons ((hseq (hchar rfl) (hdigits 2 0)).opt hjoins) .nil
  refine TakesEach.any (.cons (TakesEach.all hjoins ?_) <| .cons (TakesEach.all hjoins ?_) .nil)
  · exact .cons (hdigits 4 0) <| .cons (hchar rfl) <| .cons (hdigits 2 0) <| .cons (hchar rfl) <|
      .cons (hdigits 2 0) .nil
  · exact .cons (hdigits 4 0) <| .cons (hchar rfl) <| .cons (hdigits 1 1) <| .cons (hchar rfl) <|
      .cons (hdigits 1 1) <| .cons ((hchar rfl).alt (takes_some1 hjoins (hno rfl))) <| .cons (hdigits 1 1) <|
      .cons (hchar rfl) <| .cons (hdigits 2 0) <| .cons (hchar rfl) <| .cons (hdigits 2 0) <|
      .cons ((hseq (hchar rfl) (hmany rfl)).opt hjoins) <|
      .cons ((hseq (hmany rfl) ((hchar rfl).alt hoffset)).opt hjoins) .nil

end ReleaseMatch.Yaml
