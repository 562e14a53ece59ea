import ReleaseMatch.Pattern.Scan
import ReleaseMatch.Proofs.Result
set_option autoImplicit false

/-!
# Scanning in front of a stop

Scanning uses up characters from the left, and what it finds in a text it also finds when the text is
followed by a closing parenthesis or a bar and more: no step of it goes on with such a character. A
comment is the exception, since it runs on to the end of the line; hence a verbose text has to end its
comments.
-/
namespace ReleaseMatch.Pattern

open Text

def stops : List Char := [')', '|']

class IsStop (c : Char) : Prop where
  mem : c ∈ stops

instance : IsStop ')' := ⟨by decide⟩

instance : IsStop '|' := ⟨by decide⟩

theorem forall_stops {p : Char → Prop} (hclose : p ')') (hbar : p '|') : ∀ c ∈ stops, p c := by
  simpa [stops] using ⟨hclose, hbar⟩

instance {p : Char → Prop} [Decidable (p ')')] [Decidable (p '|')] : Decidable (∀ c ∈ stops, p c) :=
  decidable_of_decidable_of_iff (p := p ')' ∧ p '|')
    ⟨fun h => forall_stops h.1 h.2, fun h => ⟨h _ (by decide), h _ (by decide)⟩⟩

def closesComments : List Char → Bool
  | [] => true
  | c :: rest => (c != '#' || rest.contains '\n') && closesComments rest

/-- No comment in the text can run on past its end. -/
def Settled (verbose : Bool) (cs : List Char) : Prop :=
  verbose = true → closesComments cs = true

theorem closesComments_append {cs rest : List Char} (h : closesComments (cs ++ rest) = true) :
    closesComments rest = true := by
  induction cs with
  | nil => exact h
  | cons c cs ih =>
    rw [List.cons_append, closesComments, Bool.and_eq_true] at h
    exact ih h.2

section

variable {stop : Char} [IsStop stop]

theorem isBlank_stop : isBlank stop = false :=
  (by decide : ∀ c ∈ stops, isBlank c = false) stop IsStop.mem

theorem stop_ne {c : Char} (h : c ∉ stops) : stop ≠ c := fun heq => h (heq ▸ IsStop.mem)

end

namespace Settled

variable {verbose : Bool} {cs rest : List Char}

theorem plain : Settled false cs := fun h => absurd h (by simp)

theorem suffix (h : Settled verbose cs) (hrest : rest <:+ cs) : Settled verbose rest := by
  obtain ⟨used, rfl⟩ := hrest
  exact fun hv => closesComments_append (h hv)

theorem tail {c : Char} (h : Settled verbose (c :: rest)) : Settled verbose rest :=
  h.suffix (List.suffix_cons c rest)

end Settled

/-! Layout -/

theorem dropLayout_suffix (inComment : Bool) (cs : List Char) : dropLayout inComment cs <:+ cs := by
  fun_induction dropLayout inComment cs with
  | case1 => exact List.suffix_rfl
  | case2 c rest h ih => exact ih.trans (List.suffix_cons c rest)
  | case3 rest h ih => exact ih.trans (List.suffix_cons '#' rest)
  | case4 => exact List.suffix_rfl
  | case5 c rest ih => exact ih.trans (List.suffix_cons c rest)

section

variable {stop : Char} [IsStop stop]

theorem dropLayout_append (tail : List Char) (inComment : Bool) (cs : List Char)
    (hc : inComment = true → '\n' ∈ cs) (h : closesComments cs = true) :
    dropLayout inComment (cs ++ stop :: tail) = dropLayout inComment cs ++ stop :: tail := by
  induction cs generalizing inComment with
  | nil =>
    cases inComment with
    | true => exact absurd (hc rfl) (by simp)
    | false => simp [dropLayout, isBlank_stop, stop_ne (show '#' ∉ stops by decide)]
  | cons c cs ih =>
    rw [closesComments, Bool.and_eq_true] at h
    cases inComment with
    | false =>
      simp only [List.cons_append, dropLayout]
      split
      · exact ih false (by simp) h.2
      · split
        · next hsharp =>
          refine ih true (fun _ => ?_) h.2
          simpa [hsharp] using h.1
        · rfl
    | true =>
      simp only [List.cons_append, dropLayout]
      refine ih _ (fun hne => ?_) h.2
      rcases List.mem_cons.1 (hc rfl) with rfl | hmem
      · simp at hne
      · exact hmem

variable {verbose : Bool} {cs : List Char}

theorem dropSkipped_suffix (verbose : Bool) (cs : List Char) : dropSkipped verbose cs <:+ cs := by
  cases verbose with
  | false => exact List.suffix_rfl
  | true => exact dropLayout_suffix false cs

theorem dropSkipped_append (h : Settled verbose cs) (tail : List Char) :
    dropSkipped verbose (cs ++ stop :: tail) = dropSkipped verbose cs ++ stop :: tail := by
  cases verbose with
  | false => rfl
  | true => exact dropLayout_append tail false cs (by simp) (h rfl)

theorem next_suffix {c : Char} {rest : List Char} (h : next verbose cs = some (c, rest)) :
    c :: rest <:+ cs := by
  have hs := dropSkipped_suffix verbose cs
  rw [next] at h
  split at h
  · exact absurd h (by simp)
  · next d found hd =>
    rw [hd] at hs
    obtain ⟨rfl, rfl⟩ := by simpa using h
    exact hs

theorem next_rest_suffix {c : Char} {rest : List Char} (h : next verbose cs = some (c, rest)) :
    rest <:+ cs :=
  (List.suffix_cons c rest).trans (next_suffix h)

theorem next_length {c : Char} {rest : List Char} (h : next verbose cs = some (c, rest)) :
    rest.length < cs.length :=
  (next_suffix h).length_le

theorem next_append_some (hcs : Settled verbose cs) {c : Char} {rest : List Char}
    (h : next verbose cs = some (c, rest)) (tail : List Char) :
    next verbose (cs ++ stop :: tail) = some (c, rest ++ stop :: tail) := by
  rw [next] at h ⊢
  rw [dropSkipped_append hcs]
  split at h
  · exact absurd h (by simp)
  · next d found hd =>
    obtain ⟨rfl, rfl⟩ := by simpa using h
    simp [hd]

theorem next_append_none (hcs : Settled verbose cs) (h : next verbose cs = none)
    (tail : List Char) : next verbose (cs ++ stop :: tail) = some (stop, tail) := by
  rw [next] at h ⊢
  rw [dropSkipped_append hcs]
  split at h
  · next hd => simp [hd]
  · exact absurd h (by simp)

/-! Words -/

theorem accept_suffix {word : List Char} {rest : List Char} (h : accept verbose word cs = some rest) :
    rest <:+ cs := by
  induction word generalizing cs with
  | nil =>
    obtain rfl : cs = rest := by simpa [accept] using h
    exact List.suffix_rfl
  | cons w word ih =>
    rw [accept] at h
    split at h
    · next c beyond hn =>
      split at h
      · exact (ih h).trans (next_rest_suffix hn)
      · exact absurd h (by simp)
    · exact absurd h (by simp)

theorem accept_length {w : Char} {word rest : List Char}
    (h : accept verbose (w :: word) cs = some rest) : rest.length < cs.length := by
  rw [accept] at h
  split at h
  · next c beyond hn =>
    split at h
    · exact Nat.lt_of_le_of_lt (accept_suffix h).length_le (next_length hn)
    · exact absurd h (by simp)
  · exact absurd h (by simp)

theorem accept_append_some {word rest : List Char} (hcs : Settled verbose cs)
    (h : accept verbose word cs = some rest) (tail : List Char) :
    accept verbose word (cs ++ stop :: tail) = some (rest ++ stop :: tail) := by
  induction word generalizing cs with
  | nil =>
    obtain rfl : cs = rest := by simpa [accept] using h
    rfl
  | cons w word ih =>
    rw [accept] at h ⊢
    split at h
    · next c beyond hn =>
      rw [next_append_some hcs hn]
      split at h
      · next hw =>
        simp only [hw, if_true]
        exact ih (hcs.suffix (next_rest_suffix hn)) h
      · exact absurd h (by simp)
    · exact absurd h (by simp)

theorem accept_append_none {word : List Char} (hcs : Settled verbose cs) (hword : ∀ c ∈ stops, c ∉ word)
    (h : accept verbose word cs = none) (tail : List Char) :
    accept verbose word (cs ++ stop :: tail) = none := by
  induction word generalizing cs with
  | nil => exact absurd h (by simp [accept])
  | cons w word ih =>
    have hstop : stop ≠ w := fun h => hword stop IsStop.mem (h ▸ List.mem_cons_self)
    have hword : ∀ c ∈ stops, c ∉ word := fun c hc hmem => hword c hc (List.mem_cons_of_mem w hmem)
    rw [accept] at h ⊢
    split at h
    · next c beyond hn =>
      rw [next_append_some hcs hn]
      split at h
      · next hw =>
        simp only [hw, if_true]
        exact ih (hcs.suffix (next_rest_suffix hn)) hword h
      · next hw => simp [hw]
    · next hn =>
      rw [next_append_none hcs hn]
      simp [hstop]

/-! Stretches -/

attribute [local simp] span

theorem span_suffix (verbose : Bool) (test : Char → Bool) (inComment : Bool) (cs : List Char) :
    (span verbose test inComment cs).2 <:+ cs := by
  fun_induction span verbose test inComment cs with
  | case1 => exact List.suffix_rfl
  | case2 c rest ih => exact ih.trans (List.suffix_cons c rest)
  | case3 c rest h ih => exact ih.trans (List.suffix_cons c rest)
  | case4 c rest h1 h2 ih => exact ih.trans (List.suffix_cons c rest)
  | case5 c rest h1 h2 h3 found beyond heq ih =>
    rw [heq] at ih
    exact ih.trans (List.suffix_cons c rest)
  | case6 => exact List.suffix_rfl

theorem span_append {test : Char → Bool} (ht : ∀ c ∈ stops, test c = false) (tail : List Char)
    (inComment : Bool) (cs : List Char) (hc : inComment = true → '\n' ∈ cs)
    (hcs : Settled verbose cs) (hv : inComment = true → verbose = true) :
    span verbose test inComment (cs ++ stop :: tail) =
      ((span verbose test inComment cs).1, (span verbose test inComment cs).2 ++ stop :: tail) := by
  induction cs generalizing inComment with
  | nil =>
    cases inComment with
    | true => exact absurd (hc rfl) (by simp)
    | false => simp [ht stop IsStop.mem, isBlank_stop, stop_ne (show '#' ∉ stops by decide)]
  | cons c cs ih =>
    cases inComment with
    | true =>
      simp only [List.cons_append, span]
      refine ih _ (fun hne => ?_) hcs.tail fun _ => hv rfl
      rcases List.mem_cons.1 (hc rfl) with rfl | hmem
      · simp at hne
      · exact hmem
    | false =>
      simp only [List.cons_append, span]
      split
      · exact ih false (by simp) hcs.tail (by simp)
      · split
        · next hsharp =>
          rw [Bool.and_eq_true, beq_iff_eq] at hsharp
          refine ih true (fun _ => ?_) hcs.tail fun _ => hsharp.1
          have hclose := hcs hsharp.1
          rw [closesComments, Bool.and_eq_true] at hclose
          simpa [hsharp.2] using hclose.1
        · split
          · rw [ih false (by simp) hcs.tail (by simp)]
          · rfl

theorem spanWhile_suffix (verbose : Bool) (test : Char → Bool) (cs : List Char) :
    (spanWhile verbose test cs).2 <:+ cs :=
  span_suffix verbose test false cs

theorem spanWhile_append {test : Char → Bool} (ht : ∀ c ∈ stops, test c = false) (hcs : Settled verbose cs)
    (tail : List Char) :
    spanWhile verbose test (cs ++ stop :: tail) =
      ((spanWhile verbose test cs).1, (spanWhile verbose test cs).2 ++ stop :: tail) :=
  span_append ht tail false cs (by simp) hcs (by simp)

/-- A stretch that ends inside the text ends there whatever follows the text. -/
theorem span_append_of_ne {test : Char → Bool} (inComment : Bool) (more : List Char)
    (h : (span verbose test inComment cs).2 ≠ []) :
    span verbose test inComment (cs ++ more) =
      ((span verbose test inComment cs).1, (span verbose test inComment cs).2 ++ more) := by
  fun_induction span verbose test inComment cs with
  | case1 => exact absurd rfl h
  | case2 c rest ih => simpa using ih h
  | case3 c rest hblank ih => simpa [hblank] using ih h
  | case4 c rest hblank hsharp ih => simpa [hblank, hsharp] using ih h
  | case5 c rest hblank hsharp htest found beyond heq ih =>
    rw [heq] at ih
    simp [hblank, hsharp, htest, ih h]
  | case6 c rest hblank hsharp htest => simp [hblank, hsharp, htest]

/-- A stretch that reaches the end of the text takes up the stop or ends in front of it. -/
theorem span_append_of_eq (stop : Char) [IsStop stop] {test : Char → Bool} (tail : List Char)
    (inComment : Bool) (cs : List Char) (hc : inComment = true → '\n' ∈ cs) (hcs : Settled verbose cs)
    (hv : inComment = true → verbose = true) (h : (span verbose test inComment cs).2 = []) :
    stop ∈ (span verbose test inComment (cs ++ stop :: tail)).1 ∨
      (span verbose test inComment (cs ++ stop :: tail)).2 = stop :: tail := by
  induction cs generalizing inComment with
  | nil =>
    cases inComment with
    | true => exact absurd (hc rfl) (by simp)
    | false =>
      by_cases ht : test stop = true
      · simp [isBlank_stop, stop_ne (show '#' ∉ stops by decide), ht]
      · simp [isBlank_stop, stop_ne (show '#' ∉ stops by decide), ht]
  | cons c cs ih =>
    cases inComment with
    | true =>
      simp only [List.cons_append, span] at h ⊢
      refine ih _ (fun hne => ?_) hcs.tail (fun _ => hv rfl) h
      rcases List.mem_cons.1 (hc rfl) with rfl | hmem
      · simp at hne
      · exact hmem
    | false =>
      simp only [List.cons_append, span] at h ⊢
      by_cases hblank : (verbose && isBlank c) = true
      · rw [if_pos hblank] at h ⊢
        exact ih false (by simp) hcs.tail (by simp) h
      · rw [if_neg hblank] at h ⊢
        by_cases hsharp : (verbose && c == '#') = true
        · -- A comment begins here, and it ends inside the text.
          rw [if_pos hsharp] at h ⊢
          rw [Bool.and_eq_true, beq_iff_eq] at hsharp
          refine ih true (fun _ => ?_) hcs.tail (fun _ => hsharp.1) h
          have hclose := hcs hsharp.1
          rw [closesComments, Bool.and_eq_true] at hclose
          simpa [hsharp.2] using hclose.1
        · rw [if_neg hsharp] at h ⊢
          by_cases htest : test c = true
          · rw [if_pos htest] at h ⊢
            exact (ih false (by simp) hcs.tail (by simp) h).imp_left (List.mem_cons_of_mem c)
          · rw [if_neg htest] at h
            cases h

theorem span_head_append {test p : Char → Bool} (hp : ∀ c ∈ stops, p c = false) (tail : List Char)
    (inComment : Bool) (cs : List Char) (hc : inComment = true → '\n' ∈ cs) (hcs : Settled verbose cs)
    (hv : inComment = true → verbose = true) :
    (span verbose test inComment (cs ++ stop :: tail)).1.head?.any p =
      (span verbose test inComment cs).1.head?.any p := by
  induction cs generalizing inComment with
  | nil =>
    cases inComment with
    | true => exact absurd (hc rfl) (by simp)
    | false =>
      have hstop := hp stop IsStop.mem
      by_cases ht : test stop = true
      · simp [isBlank_stop, stop_ne (show '#' ∉ stops by decide), ht, hstop]
      · simp [isBlank_stop, stop_ne (show '#' ∉ stops by decide), ht]
  | cons c cs ih =>
    cases inComment with
    | true =>
      simp only [List.cons_append, span]
      refine ih _ (fun hne => ?_) hcs.tail fun _ => hv rfl
      rcases List.mem_cons.1 (hc rfl) with rfl | hmem
      · simp at hne
      · exact hmem
    | false =>
      simp only [List.cons_append, span]
      split
      · exact ih false (by simp) hcs.tail (by simp)
      · split
        · next hsharp =>
          rw [Bool.and_eq_true, beq_iff_eq] at hsharp
          refine ih true (fun _ => ?_) hcs.tail fun _ => hsharp.1
          have hclose := hcs hsharp.1
          rw [closesComments, Bool.and_eq_true] at hclose
          simpa [hsharp.2] using hclose.1
        · split <;> rfl

theorem expect_suffix {word : String} {rest : List Char} (h : expect verbose word cs = .ok rest) :
    rest <:+ cs := by
  rw [expect] at h
  split at h
  · next hacc =>
    obtain rfl := by simpa using h
    exact accept_suffix hacc
  · exact absurd h (by simp [fault])

theorem expect_append {word : String} {rest : List Char} (hcs : Settled verbose cs)
    (h : expect verbose word cs = .ok rest) (tail : List Char) :
    expect verbose word (cs ++ stop :: tail) = .ok (rest ++ stop :: tail) := by
  rw [expect] at h ⊢
  split at h
  · next hacc =>
    obtain rfl := by simpa using h
    rw [accept_append_some hcs hacc]
  · exact absurd h (by simp [fault])

theorem expect_append_error {word : String} {e : Fault} (hcs : Settled verbose cs)
    (hword : ∀ c ∈ stops, c ∉ word.toList) (h : expect verbose word cs = .error e) (tail : List Char) :
    ∃ e', expect verbose word (cs ++ stop :: tail) = .error e' := by
  rw [expect] at h ⊢
  split at h
  · exact absurd h (by simp)
  · next hacc =>
    rw [accept_append_none hcs hword hacc]
    exact ⟨_, rfl⟩

end

/-! Readers -/

/-- A reader that uses up characters from the left and does not look beyond a stop that is not its
own. -/
structure Steady {α : Type} (verbose : Bool) (read : List Char → Except Fault (α × List Char)) :
    Prop where
  suffix : ∀ {cs x rest}, read cs = .ok (x, rest) → rest <:+ cs
  append : ∀ {stop : Char} [IsStop stop] {cs x rest}, Settled verbose cs → read cs = .ok (x, rest) → ∀ tail,
    read (cs ++ stop :: tail) = .ok (x, rest ++ stop :: tail)

namespace Steady

variable {α β : Type} {verbose : Bool}

theorem pure (x : α) : Steady verbose fun cs => .ok (x, cs) where
  suffix h := by
    obtain ⟨-, rfl⟩ := by simpa using h
    exact List.suffix_rfl
  append _ h tail := by
    obtain ⟨rfl, rfl⟩ := by simpa using h
    rfl

theorem of_plain {f : List Char → Except Fault (α × List Char)} (hf : Steady false f) :
    Steady verbose f where
  suffix := hf.suffix
  append _ h := hf.append .plain h

theorem fault {cause : Cause} :
    Steady verbose fun cs => (Pattern.fault cause cs : Except Fault (α × List Char)) where
  suffix h := absurd h (by simp [Pattern.fault])
  append _ h := absurd h (by simp [Pattern.fault])

theorem bind {f : List Char → Except Fault (α × List Char)}
    {g : α → List Char → Except Fault (β × List Char)} (hf : Steady verbose f)
    (hg : ∀ x, Steady verbose (g x)) :
    Steady verbose fun cs => f cs >>= fun found => g found.1 found.2 where
  suffix h := by
    obtain ⟨found, hfound, h⟩ := bind_eq_ok.1 h
    exact ((hg found.1).suffix h).trans (hf.suffix hfound)
  append hcs h tail := by
    obtain ⟨found, hfound, h⟩ := bind_eq_ok.1 h
    have hrest := hcs.suffix (hf.suffix hfound)
    exact bind_eq_ok.2 ⟨_, hf.append hcs hfound tail, (hg found.1).append hrest h tail⟩

theorem afterWord (word : String) {g : List Char → Except Fault (α × List Char)}
    (hg : Steady verbose g) : Steady verbose fun cs => expect verbose word cs >>= g where
  suffix h := by
    obtain ⟨beyond, hword, h⟩ := bind_eq_ok.1 h
    exact (hg.suffix h).trans (expect_suffix hword)
  append hcs h tail := by
    obtain ⟨beyond, hword, h⟩ := bind_eq_ok.1 h
    have hbeyond := hcs.suffix (expect_suffix hword)
    exact bind_eq_ok.2 ⟨_, expect_append hcs hword tail, hg.append hbeyond h tail⟩

theorem first {cause : Cause} {f : Char → List Char → Except Fault (α × List Char)}
    (hf : ∀ c, Steady verbose (f c)) :
    Steady verbose fun cs =>
      match cs with
      | [] => Pattern.fault cause cs
      | c :: rest => f c rest where
  suffix {cs x rest} h := by
    cases cs with
    | nil => exact absurd h (by simp [Pattern.fault])
    | cons c cs => exact ((hf c).suffix h).trans (List.suffix_cons c cs)
  append {_ _ cs x rest} hcs h tail := by
    cases cs with
    | nil => exact absurd h (by simp [Pattern.fault])
    | cons c cs => exact (hf c).append hcs.tail h tail

theorem ite {p : Prop} [Decidable p] {f g : List Char → Except Fault (α × List Char)}
    (hf : p → Steady verbose f) (hg : ¬p → Steady verbose g) :
    Steady verbose fun cs => if p then f cs else g cs := by
  by_cases h : p
  · simpa only [h, if_true] using hf h
  · simpa only [h, if_false] using hg h

theorem map {f : List Char → Except Fault (α × List Char)} (hf : Steady verbose f) (g : α → β) :
    Steady verbose fun cs => (f cs).map fun found => (g found.1, found.2) where
  suffix h := by
    obtain ⟨found, hfound, hmap⟩ := map_eq_ok_iff.1 h
    obtain ⟨-, rfl⟩ := Prod.mk.inj hmap
    exact hf.suffix hfound
  append hcs h tail := by
    obtain ⟨found, hfound, hmap⟩ := map_eq_ok_iff.1 h
    obtain ⟨rfl, rfl⟩ := Prod.mk.inj hmap
    exact map_eq_ok_iff.2 ⟨_, hf.append hcs hfound tail, rfl⟩

end Steady
end ReleaseMatch.Pattern
