import ReleaseMatch.Proofs.Engine.Free
set_option autoImplicit false

/-!
# Rows of lookaheads

A row of lookaheads stays where it is, and gets there when each of them does by itself: what the ones
before have captured has no say in it, as long as nothing refers to it.
-/
namespace ReleaseMatch.Pattern

/-- A way to run nodes without references, in which no call leads anywhere. -/
def Surroundings.none : Surroundings := ⟨fun _ => 0, fun _ _ _ _ => .none⟩

namespace Node

/-- A match of the node begins after the first `i` characters. -/
def startsAt (n : Node) (cs : List Char) (i : Nat) : Bool :=
  (n.run .none false (.fresh cs i) some).isSome

def ahead (body : Node) : Node := .look false true body

variable {env : Surroundings} {cs : List Char} {i : Nat}

theorem startsAt_eq (env : Surroundings) {n : Node} (hn : n.isFree = true) {s : State}
    (hs : s.place = Place.of cs i) : n.startsAt cs i = (n.run env false s some).isSome :=
  (agreeRun_of_unnumbered_eq hn hn rfl .none env false _ _ hs.symm _ _ agreeNext_some).isSome_eq

/-- A row of lookaheads fails where one of them does, and otherwise goes on from where it is. -/
theorem run_ahead {bodies : List Node} (hfree : ∀ b ∈ bodies, b.isFree = true) (after : List Node)
    (k : Next) (henv : env.Explore cs) (hi : i ≤ cs.length) :
    ∀ {s : State}, s.place = Place.of cs i →
      ((∃ b ∈ bodies, b.startsAt cs i = false) ∧
        (ofList (bodies.map ahead ++ after)).run env false s k = none) ∨
      ((∀ b ∈ bodies, b.startsAt cs i = true) ∧
        ∃ t : State, t.place = Place.of cs i ∧ ((∀ b ∈ bodies, b.isQuiet = true) → t = s) ∧
          (ofList (bodies.map ahead ++ after)).run env false s k =
            (ofList after).run env false t k) := by
  induction bodies with
  | nil =>
    intro s hs
    exact .inr ⟨by simp, s, hs, fun _ => rfl, rfl⟩
  | cons b bodies ih =>
    intro s hs
    have hb := hfree b List.mem_cons_self
    have hstarts := startsAt_eq env hb hs
    simp only [List.map_cons, List.cons_append, run_ofList_cons]
    rw [ahead, run]
    cases hrun : b.run env false s some with
    | none =>
      rw [hrun] at hstarts
      exact .inl ⟨⟨b, List.mem_cons_self, hstarts⟩, rfl⟩
    | some u =>
      rw [hrun] at hstarts
      have hplace : (u.at_ s.place).place = Place.of cs i := hs
      have hwithin : s.place.Within cs := hs ▸ Place.within_of hi
      have hstill : b.isQuiet = true → u.at_ s.place = s := by
        intro hquiet
        have hmoves := (b.explores henv false s hwithin).some_good hrun
        rw [hmoves.still hquiet]
        rfl
      simp only [if_true]
      rcases ih (fun c hc => hfree c (List.mem_cons_of_mem b hc)) hplace with
        ⟨⟨c, hc, hfail⟩, hnone⟩ | ⟨hall, t, ht, hquiet, hthen⟩
      · exact .inl ⟨⟨c, List.mem_cons_of_mem b hc, hfail⟩, hnone⟩
      · refine .inr ⟨List.forall_mem_cons.2 ⟨hstarts, hall⟩, t, ht, fun hq => ?_, hthen⟩
        rw [List.forall_mem_cons] at hq
        rw [hquiet hq.2, hstill hq.1]

theorem startsAt_anything (hcs : '\n' ∉ cs) (hi : i ≤ cs.length) (nodes : List Node) :
    (ofList (anything :: nodes)).startsAt cs i = true ↔
      ∃ j, i ≤ j ∧ j ≤ cs.length ∧ (ofList nodes).startsAt cs j = true := by
  rw [startsAt, run_ofList_cons, run_anything_isSome_iff hcs hi rfl]
  simp only [State.fresh_at_of]
  rfl

end Node

namespace Regex

variable {r : Regex} {bodies : List Node} {cs : List Char}

theorem search?_ahead_isSome_iff (hnode : r.node = .ofList (bodies.map Node.ahead ++ [Node.anything]))
    (hr : r.backwards = false) (hfree : ∀ b ∈ bodies, b.isFree = true) (hcs : '\n' ∉ cs) :
    (r.search? cs).isSome ↔ ∃ i ≤ cs.length, ∀ b ∈ bodies, b.startsAt cs i = true := by
  rw [search?_isSome_iff hr]
  refine exists_congr fun i => and_congr_right fun hi => ?_
  rw [matchesAt, matchAt?_eq hr, hnode]
  rcases Node.run_ahead hfree [Node.anything] some (surroundings_explore r cs (r.depth cs)) hi
      (s := .fresh cs i) rfl with ⟨⟨b, hb, hfail⟩, hnone⟩ | ⟨hall, t, ht, -, hthen⟩
  · rw [hnone]
    simp only [Option.isSome_none, Bool.false_eq_true, false_iff]
    intro hall
    exact absurd (hall b hb) (by simp [hfail])
  · rw [hthen, Node.ofList, Node.run_anything_some hcs hi ht]
    exact ⟨fun _ => hall, fun _ => rfl⟩

/-- Where nothing is captured, what matches from the start of the text is all of it. -/
theorem search?_ahead_eq (hnode : r.node = .ofList (bodies.map Node.ahead ++ [Node.anything]))
    (hr : r.backwards = false) (hfree : ∀ b ∈ bodies, b.isFree = true)
    (hquiet : ∀ b ∈ bodies, b.isQuiet = true) (hcs : '\n' ∉ cs)
    (hall : ∀ b ∈ bodies, b.startsAt cs 0 = true) : r.search? cs = some cs := by
  have hmatch : r.matchAt? (r.surroundings (r.depth cs)) (Place.of cs 0) =
      some (.fresh cs cs.length) := by
    rw [matchAt?_eq hr, hnode]
    rcases Node.run_ahead hfree [Node.anything] some (surroundings_explore r cs (r.depth cs))
        (Nat.zero_le _) (s := .fresh cs 0) rfl with ⟨⟨b, hb, hfail⟩, -⟩ | ⟨-, t, ht, hstill, hthen⟩
    · exact absurd (hall b hb) (by simp [hfail])
    · rw [hthen, hstill hquiet, Node.ofList, Node.run_anything_some hcs (Nat.zero_le _) rfl]
      rfl
  rw [search?_of_matchAt? hr hmatch, matchText_fresh]

end Regex
end ReleaseMatch.Pattern
