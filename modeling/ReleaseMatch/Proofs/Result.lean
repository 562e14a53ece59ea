set_option autoImplicit false

/-!
# Results

When a computation that may stop at a fault comes to an end: each of its steps does. And what comes of
it in either case, put together from what comes of its steps.
-/
namespace ReleaseMatch

theorem bind_eq_ok {α β ε : Type} {x : Except ε α} {f : α → Except ε β} {b : β} :
    x >>= f = .ok b ↔ ∃ a, x = .ok a ∧ f a = .ok b := by
  cases x with
  | error e => simp [bind, Except.bind]
  | ok a => simp [bind, Except.bind]

theorem toOption_eq_some {α ε : Type} {x : Except ε α} {a : α} : x.toOption = some a ↔ x = .ok a := by
  cases x with
  | error e => simp [Except.toOption]
  | ok b => simp [Except.toOption]

theorem exists_ok_of_isSome {α ε : Type} {x : Except ε α} (h : x.toOption.isSome = true) :
    ∃ a, x = .ok a := by
  obtain ⟨a, ha⟩ := Option.isSome_iff_exists.1 h
  exact ⟨a, toOption_eq_some.1 ha⟩

theorem map_eq_ok_iff {α β ε : Type} {x : Except ε α} {f : α → β} {b : β} :
    x.map f = .ok b ↔ ∃ a, x = .ok a ∧ f a = b := by
  cases x with
  | error e => simp [Except.map]
  | ok a => simp [Except.map]

def fault? {α ε : Type} : Except ε α → Option ε
  | .ok _ => none
  | .error e => some e

theorem fault_eq_some {α ε : Type} {x : Except ε α} {e : ε} : fault? x = some e ↔ x = .error e := by
  cases x with
  | error e => simp [fault?]
  | ok a => simp [fault?]

theorem forM_eq_ok_iff {α ε : Type} {f : α → Except ε Unit} {xs : List α} :
    xs.forM f = .ok () ↔ ∀ x ∈ xs, f x = .ok () := by
  induction xs with
  | nil => simp [pure, Except.pure]
  | cons x xs ih =>
    rw [List.forall_mem_cons, ← ih]
    change (f x >>= fun _ => xs.forM f) = .ok () ↔ _
    cases f x with
    | error e => simp [bind, Except.bind]
    | ok u => simp [bind, Except.bind]

theorem mapError_eq_ok_iff {α ε φ : Type} {f : ε → φ} {x : Except ε α} {a : α} :
    x.mapError f = .ok a ↔ x = .ok a := by
  cases x with
  | error e =>
    change Except.error (f e) = .ok a ↔ _
    simp
  | ok b =>
    change Except.ok b = .ok a ↔ _
    simp

/-- Results have one property, and faults another one. -/
def Yields {ε α : Type} (Q : ε → Prop) (R : α → Prop) : Except ε α → Prop
  | .ok a => R a
  | .error e => Q e

section

variable {ε α β : Type} {Q : ε → Prop} {R R' : α → Prop} {S : β → Prop} {x : Except ε α}

theorem Yields.done {a : α} (h : R a) : Yields Q R (pure a : Except ε α) := h

theorem Yields.bind {f : α → Except ε β} (h : Yields Q R x) (hf : ∀ a, R a → Yields Q S (f a)) :
    Yields Q S (x >>= f) := by
  cases x with
  | error e => exact h
  | ok a => exact hf a h

theorem Yields.andPure {f : α → β} (h : Yields Q (fun _ => True) x) :
    Yields Q (fun _ => True) (x >>= fun a => pure (f a)) :=
  h.bind fun _ _ => .done trivial

theorem Yields.map {f : α → β} (h : Yields Q R x) (hf : ∀ a, R a → S (f a)) : Yields Q S (x.map f) := by
  cases x with
  | error e => exact h
  | ok a => exact hf a h

theorem Yields.mono {Q' : ε → Prop} (h : Yields Q R x) (hQ : ∀ e, Q e → Q' e)
    (hR : ∀ a, R a → R' a) : Yields Q' R' x := by
  cases x with
  | error e => exact hQ e h
  | ok a => exact hR a h

theorem Yields.mapM {f : α → Except ε β} (hf : ∀ a, Yields Q (fun _ => True) (f a)) (xs : List α) :
    Yields Q (fun _ => True) (xs.mapM f) := by
  induction xs with
  | nil => exact trivial
  | cons a xs ih =>
    rw [List.mapM_cons]
    exact (hf a).bind fun _ _ => ih.bind fun _ _ => .done trivial

theorem Yields.append {x y : Except ε (List α)} (hx : Yields Q (fun as => ∀ a ∈ as, R a) x)
    (hy : Yields Q (fun as => ∀ a ∈ as, R a) y) :
    Yields Q (fun as => ∀ a ∈ as, R a) (x >>= fun as => y >>= fun bs => pure (as ++ bs)) :=
  hx.bind fun _ has => hy.bind fun _ hbs => .done (List.forall_mem_append.2 ⟨has, hbs⟩)

end

end ReleaseMatch
