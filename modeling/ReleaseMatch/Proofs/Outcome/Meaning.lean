import Mathlib.Data.List.Forall2
import ReleaseMatch.Proofs.Conjunction.Compile
set_option autoImplicit false

/-!
# What of conditions counts

Two lists of conditions that ask the same, position by position and without the conditions that ask
nothing, are compiled to the same outcome. So an id, a field, the text of a condition that needs
none, the flag of one for which case does not count, and a blank condition at any place are without
effect.
-/
namespace ReleaseMatch

/-- Asks the same: by the same operator, of the same value where the operator has one, and with the
same flag where case counts. -/
structure Condition.AsksAs (c d : Condition) : Prop where
  operator : c.operator = d.operator
  value : c.operator ≠ .isEmpty → c.operator ≠ .isNotEmpty → c.value = d.value
  caseSensitive : c.operator ≠ .matches → c.operator ≠ .isEmpty → c.operator ≠ .isNotEmpty →
    c.caseSensitive = d.caseSensitive

def AskSame (cs ds : List Condition) : Prop :=
  List.Forall₂ Condition.AsksAs (validOf cs) (validOf ds)

namespace Condition

variable {c d : Condition}

theorem AsksAs.refl (c : Condition) : c.AsksAs c :=
  ⟨rfl, fun _ _ => rfl, fun _ _ _ => rfl⟩

namespace AsksAs

theorem honoursCase (h : c.AsksAs d) : c.honoursCase = d.honoursCase := by
  rw [Condition.honoursCase, Condition.honoursCase, h.operator]

theorem of_honoursCase (h : c.AsksAs d) (hcase : c.operator.honoursCase = true) :
    c.value = d.value ∧ c.caseSensitive = d.caseSensitive := by
  have hne {op : Operator} (hop : op.honoursCase = false) : c.operator ≠ op := by
    rintro rfl
    exact absurd hcase (by simp [hop])
  exact ⟨h.value (hne rfl) (hne rfl), h.caseSensitive (hne rfl) (hne rfl) (hne rfl)⟩

/-- What asks the same has the same fragment: the escaped text of a condition that needs none does
not get into its template, nor the flag of one for which case does not count. -/
theorem fragment (h : c.AsksAs d) : c.fragment = d.fragment := by
  rw [Condition.fragment, Condition.fragment, ← h.operator, Operator.fragment, Operator.fragment]
  cases hcase : c.operator.honoursCase with
  | true =>
    obtain ⟨hvalue, hflag⟩ := h.of_honoursCase hcase
    rw [hvalue, hflag]
  | false =>
    have hvalue := h.value
    cases hop : c.operator with
    | isEmpty => rfl
    | isNotEmpty => rfl
    | «matches» =>
      rw [hvalue (by simp [hop]) (by simp [hop])]
      rfl
    | _ => exact absurd (hop ▸ hcase) (by decide)

end AsksAs
end Condition

theorem map_filter_eq_of_forall₂ {α β : Type} {R : α → α → Prop} (test : α → Bool) (f : α → β)
    {xs ys : List α} (h : List.Forall₂ R xs ys) (htest : ∀ x y, R x y → test x = test y)
    (hf : ∀ x y, R x y → test x = true → f x = f y) :
    (xs.filter test).map f = (ys.filter test).map f := by
  induction h with
  | nil => rfl
  | @cons x y xs ys hxy hrest ih =>
    cases hx : test x with
    | true =>
      have hy : test y = true := (htest x y hxy).symm.trans hx
      rw [List.filter_cons_of_pos hx, List.filter_cons_of_pos hy, List.map_cons, List.map_cons,
        hf x y hxy hx, ih]
    | false =>
      have hy : test y = false := (htest x y hxy).symm.trans hx
      rw [List.filter_cons_of_neg (by simp [hx]), List.filter_cons_of_neg (by simp [hy]), ih]

theorem map_eq_of_forall₂ {α β : Type} {R : α → α → Prop} (f : α → β) {xs ys : List α}
    (h : List.Forall₂ R xs ys) (hf : ∀ x y, R x y → f x = f y) : xs.map f = ys.map f := by
  have hmap := map_filter_eq_of_forall₂ (fun _ => true) f h (fun _ _ _ => rfl)
    fun x y hxy _ => hf x y hxy
  simpa using hmap

section

variable {cs ds : List Condition}

theorem mixedCase_congr (h : List.Forall₂ Condition.AsksAs cs ds) : mixedCase cs = mixedCase ds := by
  rw [mixedCase, mixedCase, map_filter_eq_of_forall₂ (·.honoursCase) (·.caseSensitive) h
    (fun _ _ hcd => hcd.honoursCase) fun _ _ hcd hcase => (hcd.of_honoursCase hcase).2]

theorem composeAnchored_congr (h : List.Forall₂ Condition.AsksAs cs ds)
    (hops : ∀ c ∈ cs, c.operator.isComposable = true) : composeAnchored cs = composeAnchored ds := by
  have hboth := (List.forall₂_and_left cs ds).2 ⟨hops, h⟩
  have hsame {c d : Condition} (hcd : c.operator.isComposable = true ∧ c.AsksAs d) :
      c.value = d.value ∧ c.caseSensitive = d.caseSensitive :=
    hcd.2.of_honoursCase (honoursCase_of_isComposable hcd.1)
  have hlast (op : Operator) : lastLiteral? op cs = lastLiteral? op ds := by
    rw [lastLiteral?, lastLiteral?, ← List.getLast?_map, ← List.getLast?_map,
      map_filter_eq_of_forall₂ (·.operator == op) (fun c => Literal.escape c.value) hboth
        (fun _ _ hcd => by rw [hcd.2.operator]) fun _ _ hcd _ => congrArg _ (hsame hcd).1]
  have hbetween := map_filter_eq_of_forall₂
    (fun c : Condition => c.operator != .startsWith && c.operator != .endsWith)
    (fun c => ".*" ++ Literal.escape c.value) hboth (fun _ _ hcd => by rw [hcd.2.operator])
    fun _ _ hcd _ => congrArg (".*" ++ Literal.escape ·) (hsame hcd).1
  simp only [composeAnchored, hlast, hbetween]
  cases hboth with
  | nil => rfl
  | @cons c d cs ds hcd hrest =>
    have hcase := (hsame hcd).2
    simp only [hcase]

theorem combineAnd_congr (h : List.Forall₂ Condition.AsksAs cs ds) (fragments : List String) :
    combineAnd cs fragments = combineAnd ds fragments := by
  have hops : cs.map (·.operator) = ds.map (·.operator) :=
    map_eq_of_forall₂ (·.operator) h fun _ _ hcd => hcd.operator
  rw [combineAnd, combineAnd, ← mixedCase_congr h, ← hops]
  cases mixedCase cs with
  | error fault => rfl
  | ok mixed =>
    cases hproblems : positionalProblems (cs.map (·.operator)) with
    | cons problem problems => rfl
    | nil =>
      cases hany : (cs.map (·.operator)).any (·.isPositional) with
      | false => rfl
      | true =>
        have hcomposable := isComposable_of_any_isPositional hproblems hany
        rw [composeAnchored_congr h fun c hc => hcomposable _ (List.mem_map_of_mem hc)]

theorem compile_congr (h : AskSame cs ds) (k : Combinator) : compile cs k = compile ds k := by
  have hfragments : (validOf cs).map (·.fragment) = (validOf ds).map (·.fragment) :=
    map_eq_of_forall₂ (·.fragment) h fun _ _ hcd => hcd.fragment
  have hand := combineAnd_congr h ((validOf cs).map (·.fragment))
  rw [validOf, validOf] at hfragments hand
  simp only [compile, ← hfragments, hand]

/-! Contexts -/

theorem AskSame.append {before before' after after' : List Condition} (h : AskSame before before')
    (h' : AskSame after after') : AskSame (before ++ after) (before' ++ after') := by
  rw [AskSame, validOf, validOf, List.filter_append, List.filter_append]
  exact List.rel_append h h'

theorem AskSame.refl (cs : List Condition) : AskSame cs cs :=
  List.forall₂_same.2 fun c _ => .refl c

theorem askSame_nil (h : ∀ c ∈ cs, c.isValid = false) : AskSame cs [] := by
  have hnone : validOf cs = [] := List.filter_eq_nil_iff.2 fun c hc => by simp [h c hc]
  rw [AskSame, hnone]
  exact .nil

/-- What asks the same is compiled to the same, also among other conditions and behind blank ones;
and when it is at most one condition that is valid, under either combinator. -/
theorem compile_eq_of_askSame (h : AskSame cs ds) :
    (∀ k, compile cs k = compile ds k) ∧
    (∀ before blanks after k, (∀ c ∈ blanks, c.isValid = false) →
      compile (before ++ blanks ++ cs ++ after) k = compile (before ++ ds ++ after) k) ∧
    ((validOf cs).length ≤ 1 → compile cs .and = compile ds .or) := by
  refine ⟨compile_congr h, fun before blanks after k hblank => ?_, fun hone => ?_⟩
  · have hrow : AskSame (before ++ blanks ++ cs ++ after) (before ++ [] ++ ds ++ after) :=
      (((AskSame.refl before).append (askSame_nil hblank)).append h).append (AskSame.refl after)
    rw [compile_congr hrow k, List.append_nil]
  · rw [compile_congr h]
    match hvalid : validOf ds with
    | [] => rw [compile_of_nil hvalid, compile_of_nil hvalid]
    | [d] => rw [compile_of_singleton hvalid, compile_of_singleton hvalid]
    | d :: e :: rest =>
      have hlen := List.Forall₂.length_eq h
      rw [hvalid, List.length_cons, List.length_cons] at hlen
      omega

end

/-- Two ways to ask for a word, of which one is full of what does not count. -/
def askedOnce : List Condition :=
  [{ id := "1", operator := .wordBoundary, value := "HDR", caseSensitive := .bool true },
    { id := "2", operator := .isNotEmpty }]

def askedAtLength : List Condition :=
  [{ id := "7", operator := .startsWith, value := " \t" },
    { id := "8", operator := .wordBoundary, value := "HDR", caseSensitive := .bool true,
      field := "size" },
    { id := "9", operator := .isNotEmpty, value := "(*", caseSensitive := .bool true }]

theorem askSame_atLength : AskSame askedOnce askedAtLength ∧
    (∀ k, compile askedOnce k = compile askedAtLength k) ∧
    compile askedAtLength .and = .ok (.compiled "(?=.*\\bHDR\\b)(?=.*.+).*") := by
  have hsame : AskSame askedOnce askedAtLength := by
    have honce : validOf askedOnce = askedOnce := rfl
    have hlength : validOf askedAtLength = askedAtLength.tail := rfl
    rw [AskSame, honce, hlength]
    refine .cons ⟨rfl, fun _ _ => rfl, fun _ _ _ => rfl⟩ (.cons ⟨rfl, ?_, ?_⟩ .nil)
    · exact fun _ hop => absurd rfl hop
    · exact fun _ _ hop => absurd rfl hop
  obtain ⟨hall, -, -⟩ := compile_eq_of_askSame hsame
  exact ⟨hsame, hall, by decide +kernel⟩
end ReleaseMatch
