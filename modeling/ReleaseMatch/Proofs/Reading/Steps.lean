import ReleaseMatch.Pattern.Reader
import ReleaseMatch.Proofs.Reading.Scan
set_option autoImplicit false

/-!
# Steps of a reader

Each step of a reader uses up characters, so that the bound on the number of steps is never met: one
reader leads to another regardless of the bound, as long as the steps are no more than the characters
between them.
-/
namespace ReleaseMatch.Pattern

def Level.gain (l : Level) (items : List (Option Node)) : Level :=
  { l with items := items.reverse ++ l.items }

namespace Level

variable {l : Level} {xs ys : List (Option Node)}

theorem gain_append : l.gain (xs ++ ys) = (l.gain xs).gain ys := by
  simp [gain]

theorem sequence_gain : (Level.gain {} xs).sequence = .ofList (xs.filterMap id) := by
  simp [gain, sequence]

theorem node_gain : (Level.gain {} xs).node = .ofList (xs.filterMap id) := by
  rw [node, sequence_gain]
  rfl

end Level

namespace Reader

variable {r s t : Reader} {c : Char} {rest : List Char}

/-- Reading leads from one reader to another, with no more steps than characters used up. -/
def Steps (r s : Reader) : Prop :=
  ∃ n, n + s.rest.length ≤ r.rest.length ∧ ∀ fuel, readAll (fuel + n) r = readAll fuel s

namespace Steps

theorem refl : Steps r r := ⟨0, by simp, fun _ => rfl⟩

theorem trans (hrs : Steps r s) (hst : Steps s t) : Steps r t := by
  obtain ⟨n, hn, hrs⟩ := hrs
  obtain ⟨m, hm, hst⟩ := hst
  refine ⟨m + n, by omega, fun fuel => ?_⟩
  rw [← Nat.add_assoc, hrs, hst]

theorem of_readChar (hn : next r.isVerbose r.rest = some (c, rest))
    (hc : r.readChar c rest = .ok s) (hs : s.rest.length ≤ rest.length) : Steps r s := by
  have hlt := next_length hn
  refine ⟨1, by omega, fun fuel => ?_⟩
  rw [readAll, hn]
  simp only [hc]
  rfl

end Steps

def passes (test : Reader → Bool) : Nat → Reader → Bool
  | 0, r => test r
  | fuel + 1, r =>
    test r &&
      match next r.isVerbose r.rest with
      | none => true
      | some (c, rest) =>
        match r.readChar c rest with
        | .ok s => passes test fuel s
        | .error _ => true

section

variable {test : Reader → Bool} {fuel : Nat}

theorem test_of_passes (h : r.passes test fuel = true) : test r = true := by
  cases fuel with
  | zero => exact h
  | succ fuel => exact (Bool.and_eq_true_iff.1 h).1

theorem passes_of_readChar (h : r.passes test (fuel + 1) = true)
    (hn : next r.isVerbose r.rest = some (c, rest)) (hc : r.readChar c rest = .ok s) :
    s.passes test fuel = true := by
  rw [passes, hn, Bool.and_eq_true] at h
  simpa [hc] using h.2

end

/-- Reading leads from one reader to another, each step where all characters count and none of them
refers to a group. -/
inductive PlainSteps : Reader → Reader → Prop
  | refl {r : Reader} : PlainSteps r r
  | step {r s t : Reader} {c : Char} {rest : List Char} (hv : r.isVerbose = false)
      (hr : r.rest = c :: rest) (hc : r.readChar c rest = .ok s) (hs : s.rest.length ≤ rest.length)
      (hrefs : s.references = r.references) (h : PlainSteps s t) : PlainSteps r t

namespace PlainSteps

theorem of_cons (hv : r.isVerbose = false) (hr : r.rest = c :: rest)
    (hc : r.readChar c rest = .ok s) (hs : s.rest.length ≤ rest.length)
    (hrefs : s.references = r.references) : PlainSteps r s :=
  .step hv hr hc hs hrefs .refl

theorem trans (hrs : PlainSteps r s) (hst : PlainSteps s t) : PlainSteps r t := by
  induction hrs with
  | refl => exact hst
  | step hv hr hc hs hrefs _ ih => exact .step hv hr hc hs hrefs (ih hst)

theorem next_of_cons (hv : r.isVerbose = false) (hr : r.rest = c :: rest) :
    next r.isVerbose r.rest = some (c, rest) := by
  rw [next, dropSkipped, hv, hr]
  rfl

theorem toSteps (h : PlainSteps r s) : Steps r s := by
  induction h with
  | refl => exact .refl
  | step hv hr hc hs _ _ ih => exact (Steps.of_readChar (next_of_cons hv hr) hc hs).trans ih

theorem references_eq (h : PlainSteps r s) : s.references = r.references := by
  induction h with
  | refl => rfl
  | step _ _ _ _ hrefs _ ih => exact ih.trans hrefs

/-- A test that is passed where all characters count and the references are those at the end is passed
up to the last of these steps. -/
theorem passes {test : Reader → Bool} (h : PlainSteps r s)
    (htest : ∀ t : Reader, t.isVerbose = false → t.references = s.references → test t = true)
    (hs : ∀ fuel, s.passes test fuel = true) (fuel : Nat) : r.passes test fuel = true := by
  induction h generalizing fuel with
  | refl => exact hs fuel
  | step hv hr hc _ hrefs h ih =>
    have hcurrent := htest _ hv (h.references_eq.trans hrefs).symm
    cases fuel with
    | zero => exact hcurrent
    | succ fuel =>
      rw [Reader.passes, hcurrent, next_of_cons hv hr]
      simpa [hc] using ih htest hs fuel

end PlainSteps

theorem readAll_of_steps (h : Steps r s) (hs : next s.isVerbose s.rest = none) (hg : s.groups = [])
    {fuel : Nat} (hfuel : r.rest.length < fuel) : readAll fuel r = .ok s := by
  obtain ⟨n, hn, h⟩ := h
  obtain ⟨more, rfl⟩ : ∃ more, fuel = (more + 1) + n := ⟨fuel - n - 1, by omega⟩
  rw [h, readAll, hs]
  simp [hg]

end Reader

/-! What is asked of the end of a pattern -/

/-- The flags go together, and what is referred to is there. -/
structure Reader.IsSound (e : Reader) : Prop where
  version : Flag.oldVersion ∉ e.globals
  encodings : e.mixesEncodings = false
  references : ∀ ref ∈ e.references, ref.check e.groupCount e.names e.opened = .ok ()

def Reader.regex (e : Reader) : Regex :=
  ⟨e.level.node.join, e.groupCount, e.names, e.globals.contains .backwards⟩

theorem Regex.read_eq_ok_iff {pattern : List Char} {r : Regex} :
    Regex.read pattern = .ok r ↔ ∃ e : Reader,
      Reader.readAll (pattern.length + 1) { rest := pattern } = .ok e ∧ e.IsSound ∧ r = e.regex := by
  have hversion (e : Reader) : e.globals.contains .oldVersion = true ↔ Flag.oldVersion ∈ e.globals :=
    List.contains_iff_mem
  rw [Regex.read]
  constructor
  · intro h
    obtain ⟨e, he, h⟩ := bind_eq_ok.1 h
    split at h
    · cases h
    · next hnot =>
      split at h
      · cases h
      · next hmix =>
        obtain ⟨u, hrefs, h⟩ := bind_eq_ok.1 h
        have hall := forM_eq_ok_iff.1 (mapError_eq_ok_iff.1 hrefs)
        refine ⟨e, mapError_eq_ok_iff.1 he, ⟨fun hmem => hnot ((hversion e).2 hmem), ?_, ?_⟩,
          (Except.ok.inj h).symm⟩
        · simpa using hmix
        · exact fun ref href => hall ref (List.mem_reverse.2 href)
  · rintro ⟨e, he, hsound, rfl⟩
    refine bind_eq_ok.2 ⟨e, mapError_eq_ok_iff.2 he, ?_⟩
    rw [if_neg fun hmem => hsound.version ((hversion e).1 hmem), if_neg (by simp [hsound.encodings])]
    have hall := forM_eq_ok_iff.2 fun ref href => hsound.references ref (List.mem_reverse.1 href)
    exact bind_eq_ok.2 ⟨(), mapError_eq_ok_iff.2 hall, rfl⟩

theorem Regex.read_of_steps {pattern : List Char} {r : Reader}
    (h : Reader.Steps { rest := pattern } r) (hrest : r.rest = []) (hg : r.groups = [])
    (hrefs : r.references = []) (hversion : Flag.oldVersion ∉ r.globals)
    (hmix : r.mixesEncodings = false) :
    Regex.read pattern =
      .ok ⟨r.level.node.join, r.groupCount, r.names, r.globals.contains .backwards⟩ := by
  have hend : next r.isVerbose r.rest = none := by
    rw [hrest, next, dropSkipped]
    cases r.isVerbose <;> rfl
  have hall := Reader.readAll_of_steps h hend hg (Nat.lt_succ_self pattern.length)
  exact Regex.read_eq_ok_iff.2 ⟨r, hall, ⟨hversion, hmix, by simp [hrefs]⟩, rfl⟩

end ReleaseMatch.Pattern
