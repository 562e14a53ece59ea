import ReleaseMatch.Proofs.Json.Tokens
import ReleaseMatch.Proofs.Yaml.Nodes
import ReleaseMatch.Proofs.Yaml.Reader
set_option autoImplicit false

/-!
# JSON text as nodes

The tokens of JSON text are read as nodes that give the value it was written for, but for the numbers that
are read as text.
-/
namespace ReleaseMatch

open Yaml

/-! What is read back -/

mutual

def Value.asRead : Value → Value
  | .float x => readBack x
  | .list xs => .list (asReadItems xs)
  | .map entries => .map (asReadEntries entries)
  | v => v

def asReadItems : List Value → List Value
  | [] => []
  | x :: rest => x.asRead :: asReadItems rest

def asReadEntries : List (Value × Value) → List (Value × Value)
  | [] => []
  | (k, v) :: rest => (k, v.asRead) :: asReadEntries rest

end

namespace Json

/-- From the tokens of a value a node is read that gives what the value is read as. -/
def Reads (v : Value) : Prop :=
  ∀ (style : Style) {fuel : Nat} {r : NodeReader} {after : List TokenKind},
    r.tokens.map (·.kind) = kinds v ++ after → (kinds v).length ≤ fuel →
    ∃ n r', readNode style fuel r = .ok (n, r') ∧ n.Gives v.asRead ∧ r'.tokens.map (·.kind) = after

theorem kinds_begins (v : Value) : ∃ kind rest, kinds v = kind :: rest ∧ Begins kind := by
  cases v with
  | text s => exact ⟨_, _, rfl, .scalar s false⟩
  | list xs => exact ⟨_, _, rfl, .sequence⟩
  | map entries => exact ⟨_, _, rfl, .mapping⟩
  | _ => exact ⟨_, _, rfl, .scalar _ true⟩

theorem reads_of_scalarValue {v : Value} {text : String} {plain : Bool} (hkinds : kinds v = [.scalar text plain])
    (hvalue : ∀ mark, scalarValue (.scalar (scalarTag none text plain) text mark) = .ok (some v.asRead)) : Reads v := by
  intro style fuel r after h hfuel
  rw [hkinds] at h hfuel
  obtain ⟨fuel, rfl⟩ := Nat.exists_eq_add_one.2 hfuel
  obtain ⟨mark, r', hread, hrest⟩ := readNode_scalar h style fuel
  exact ⟨_, r', hread, gives_of_scalarValue (hvalue mark) ⟨_, _, _, rfl⟩, hrest⟩

theorem reads_of_word {v : Value} {text : String} (hkinds : kinds v = [.scalar (String.ofList (line v)) true])
    (hline : line v = text.toList)
    (hvalue : ∀ mark, scalarValue (.scalar (plainTag text) text mark) = .ok (some v.asRead)) : Reads v := by
  rw [hline, String.ofList_toList] at hkinds
  exact reads_of_scalarValue hkinds hvalue

def itemsAhead (first : Bool) : List Value → List TokenKind
  | [] => []
  | x :: xs => separator first ++ itemKinds (x :: xs)

def entriesAhead (first : Bool) : List (Value × Value) → List TokenKind
  | [] => []
  | e :: es => separator first ++ entryKinds (e :: es)

theorem itemsAhead_cons (first : Bool) (x : Value) (xs : List Value) :
    itemsAhead first (x :: xs) = separator first ++ (kinds x ++ itemsAhead false xs) := by
  cases xs with
  | nil => rw [show itemsAhead false [] = [] from rfl, List.append_nil]; rfl
  | cons y ys => rfl

theorem entriesAhead_cons (first : Bool) (k v : Value) (es : List (Value × Value)) :
    entriesAhead first ((k, v) :: es) =
      separator first ++ .key :: .scalar k.shown false :: .value :: (kinds v ++ entriesAhead false es) := by
  cases es with
  | nil => rw [show entriesAhead false [] = [] from rfl, List.append_nil]; rfl
  | cons e es => rfl

theorem itemsAhead_true (xs : List Value) : itemsAhead true xs = itemKinds xs := by
  cases xs <;> rfl

theorem entriesAhead_true (es : List (Value × Value)) : entriesAhead true es = entryKinds es := by
  cases es <;> rfl

variable {first : Bool} {start : Mark} {fuel : Nat} {r : NodeReader} {after : List TokenKind}

theorem items_read {xs : List Value} (hxs : ∀ x ∈ xs, Reads x)
    (h : r.tokens.map (·.kind) = itemsAhead first xs ++ .flowSequenceEnd :: after)
    (hfuel : (itemsAhead first xs).length < fuel) :
    ∃ ns r', readFlowSequence start first fuel r = .ok (ns, r') ∧ List.Forall₂ Node.Gives ns (asReadItems xs) ∧
      r'.tokens.map (·.kind) = after := by
  induction xs generalizing first fuel r with
  | nil =>
    obtain ⟨fuel, rfl⟩ := Nat.exists_eq_add_one.2 (Nat.zero_lt_of_lt hfuel)
    obtain ⟨r', hread, hrest⟩ := readFlowSequence_end h
    exact ⟨[], r', hread, .nil, hrest⟩
  | cons x xs ih =>
    obtain ⟨kind, more, hkinds, hbegins⟩ := kinds_begins x
    rw [itemsAhead_cons, List.append_assoc, List.append_assoc, hkinds, List.cons_append] at h
    rw [itemsAhead_cons, List.length_append, List.length_append, hkinds, List.length_cons] at hfuel
    obtain ⟨fuel, rfl⟩ : ∃ f, fuel = f + 1 := ⟨fuel - 1, by omega⟩
    obtain ⟨r₁, hahead, hitem⟩ := readFlowSequence_item hbegins h
    rw [← List.cons_append, ← hkinds] at hahead
    have hfirst : (kinds x).length ≤ fuel := by rw [hkinds, List.length_cons]; omega
    have hmore : (itemsAhead false xs).length < fuel := by omega
    obtain ⟨n, r₂, hnode, hgives, hrest⟩ := hxs x List.mem_cons_self {} hahead hfirst
    obtain ⟨ns, r₃, hitems, hall, hrest'⟩ := ih (fun y hy => hxs y (List.mem_cons_of_mem _ hy)) hrest hmore
    exact ⟨n :: ns, r₃, hitem hnode hitems, .cons hgives hall, hrest'⟩

theorem entries_read {es : List (Value × Value)} (hkeys : ∀ e ∈ es, ∃ key, e.1 = .text key)
    (hes : ∀ e ∈ es, Reads e.2) (h : r.tokens.map (·.kind) = entriesAhead first es ++ .flowMappingEnd :: after)
    (hfuel : (entriesAhead first es).length < fuel) :
    ∃ ns r', readFlowMapping start first fuel r = .ok (ns, r') ∧ List.Forall₂ GivesEntry ns (asReadEntries es) ∧
      r'.tokens.map (·.kind) = after := by
  induction es generalizing first fuel r with
  | nil =>
    obtain ⟨fuel, rfl⟩ := Nat.exists_eq_add_one.2 (Nat.zero_lt_of_lt hfuel)
    obtain ⟨r', hread, hrest⟩ := readFlowMapping_end h
    exact ⟨[], r', hread, .nil, hrest⟩
  | cons e es ih =>
    obtain ⟨_, v⟩ := e
    obtain ⟨key, rfl⟩ := hkeys _ List.mem_cons_self
    obtain ⟨kind, more, hkinds, hbegins⟩ := kinds_begins v
    rw [entriesAhead_cons, List.append_assoc, List.cons_append, List.cons_append, List.cons_append, List.append_assoc,
      hkinds, List.cons_append] at h
    rw [entriesAhead_cons, List.length_append, List.length_cons, List.length_cons, List.length_cons,
      List.length_append, hkinds, List.length_cons] at hfuel
    obtain ⟨fuel, rfl⟩ : ∃ f, fuel = f + 2 := ⟨fuel - 2, by omega⟩
    obtain ⟨mark, r₁, hahead, hentry⟩ := readFlowMapping_entry hbegins h
    rw [← List.cons_append, ← hkinds] at hahead
    have hfirst : (kinds v).length ≤ fuel + 1 := by rw [hkinds, List.length_cons]; omega
    have hmore : (entriesAhead false es).length < fuel + 1 := by omega
    obtain ⟨n, r₂, hnode, hgives, hrest⟩ := hes _ List.mem_cons_self {} hahead hfirst
    obtain ⟨ns, r₃, hentries, hall, hrest'⟩ := ih (fun e he => hkeys e (List.mem_cons_of_mem _ he))
      (fun e he => hes e (List.mem_cons_of_mem _ he)) hrest hmore
    exact ⟨_, r₃, hentry hnode hentries, .cons ⟨hgives⟩ hall, hrest'⟩

theorem keys_asReadEntries (es : List (Value × Value)) : (asReadEntries es).map (·.1) = es.map (·.1) := by
  induction es with
  | nil => rfl
  | cons e es ih => exact congrArg (_ :: ·) ih

theorem reads {v : Value} (hv : v.IsPortable) (hmodest : v.IsModest) : Reads v := by
  induction hv with
  | null => exact reads_of_word rfl rfl scalarValue_null
  | bool b => exact reads_of_word rfl rfl fun mark => scalarValue_bool mark b
  | int n =>
    cases hmodest with
    | int h => exact reads_of_word rfl rfl fun mark => scalarValue_int mark h
  | float h => exact reads_of_word rfl rfl fun mark => scalarValue_float mark h
  | text h => exact reads_of_scalarValue rfl fun mark => rfl
  | @list xs _ ih =>
    cases hmodest with
    | list hall =>
      intro style fuel r after h hfuel
      rw [kinds, ← itemsAhead_true, List.append_assoc, List.cons_append] at h
      rw [kinds, ← itemsAhead_true, List.cons_append, List.length_cons, List.length_append,
        List.length_singleton] at hfuel
      obtain ⟨fuel, rfl⟩ : ∃ f, fuel = f + 1 := ⟨fuel - 1, by omega⟩
      have hmore : (itemsAhead true xs).length < fuel := by omega
      obtain ⟨start, r₁, hahead, hnode⟩ := readNode_sequence h style fuel
      obtain ⟨ns, r', hitems, hgives, hrest⟩ := items_read (fun x hx => ih x hx (hall x hx)) hahead hmore
      exact ⟨_, r', hnode ns r' hitems, gives_sequence hgives start, hrest⟩
  | @map es hkeys hdistinct _ ih =>
    cases hmodest with
    | map _ hall =>
      intro style fuel r after h hfuel
      rw [kinds, ← entriesAhead_true, List.append_assoc, List.cons_append] at h
      rw [kinds, ← entriesAhead_true, List.cons_append, List.length_cons, List.length_append,
        List.length_singleton] at hfuel
      obtain ⟨fuel, rfl⟩ : ∃ f, fuel = f + 1 := ⟨fuel - 1, by omega⟩
      have hmore : (entriesAhead true es).length < fuel := by omega
      obtain ⟨start, r₁, hahead, hnode⟩ := readNode_mapping h style fuel
      have htexts (e) (he : e ∈ es) : ∃ key, e.1 = .text key := (hkeys e he).imp fun _ h => h.1
      obtain ⟨ns, r', hentries, hgives, hrest⟩ := entries_read htexts (fun e he => ih e he (hall e he)) hahead hmore
      exact ⟨_, r', hnode ns r' hentries, gives_mapping hgives (by rwa [keys_asReadEntries]) start, hrest⟩

end Json
end ReleaseMatch
