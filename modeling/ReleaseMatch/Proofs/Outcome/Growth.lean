import Mathlib.Data.List.Perm.Subperm
import ReleaseMatch.Proofs.Outcome.Classes
set_option autoImplicit false

/-!
# Conflicts in longer lists

Whatever keeps some conditions from having one pattern keeps all lists from it in which they occur,
in whatever order: operators clash by how often they occur, and flags disagree by the conditions that
have them. So a conflict goes away only when a condition is taken back.
-/
namespace ReleaseMatch

/-! Problems -/

section

variable {ops ops' : List Operator} {cs ds : List Condition}

theorem Problem.ArisesFrom.mono {p : Problem} (hp : p.ArisesFrom ops) (h : ops.Subperm ops') :
    p.ArisesFrom ops' := by
  have hmem {op : Operator} (hop : op ∈ ops) : op ∈ ops' := h.subset hop
  cases p with
  | repeated op => exact ⟨hp.1, Nat.lt_of_lt_of_le hp.2 (h.count_le op)⟩
  | equalsAmongOthers => exact ⟨hmem hp.1, hp.2.imp hmem (.imp hmem hmem)⟩
  | anchored op => exact ⟨hp.1, hmem hp.2⟩
  | besidePositional op => exact ⟨hp.1, hmem hp.2.1, hp.2.2.imp hmem (.imp hmem hmem)⟩
  | mixedCase => exact hp

theorem Clash.mono (hclash : Clash ops) (h : ops.Subperm ops') : Clash ops' := by
  obtain ⟨p, hp⟩ := clash_iff_exists_arisesFrom.1 hclash
  exact clash_iff_exists_arisesFrom.2 ⟨p, hp.mono h⟩

theorem CaseDisagrees.mono (hcase : CaseDisagrees cs) (h : cs.Subperm ds) : CaseDisagrees ds := by
  obtain ⟨c, hc, d, hd, hhonours⟩ := hcase
  exact ⟨c, h.subset hc, d, h.subset hd, hhonours⟩

theorem subperm_operators (h : cs.Subperm ds) :
    (cs.map (·.operator)).Subperm (ds.map (·.operator)) := by
  obtain ⟨zs, hperm, hsub⟩ := h
  exact ⟨zs.map (·.operator), hperm.map _, hsub.map _⟩

theorem Problem.Arises.mono {p : Problem} (hp : p.Arises cs) (h : cs.Subperm ds) : p.Arises ds := by
  rcases hp with hp | ⟨rfl, hcase⟩
  · exact .inl (hp.mono (subperm_operators h))
  · exact .inr ⟨rfl, hcase.mono h⟩

end

/-! Outcomes -/

/-- The flags and the messages of an outcome are those of the problems of some conditions, each told
once, and none if there are not two conditions to be joined. -/
structure Outcome.Tells (o : Outcome) (cs : List Condition) : Prop where
  positional_iff : o.flat.positional = true ↔ 2 ≤ cs.length ∧ Clash (cs.map (·.operator))
  mixedCase_iff : o.flat.mixedCase = true ↔ 2 ≤ cs.length ∧ CaseDisagrees cs
  mem_messages_iff : ∀ m, m ∈ o.messages ↔ 2 ≤ cs.length ∧ ∃ p : Problem, p.Arises cs ∧ p.message = m
  nodup : o.messages.Nodup
  not_appliable : o.flat.hasConflict = true → o.isAppliable = false

section

variable {cs : List Condition}

theorem Problem.Arises.conflict {p : Problem} (h : p.Arises cs) :
    Clash (cs.map (·.operator)) ∨ CaseDisagrees cs :=
  h.imp (fun hp => clash_iff_exists_arisesFrom.2 ⟨p, hp⟩) fun hp => hp.2

theorem tells_nothing {o : Outcome} (hflat : o.flat.hasConflict = false) (hmessages : o.messages = [])
    (hnone : ¬(2 ≤ cs.length ∧ (Clash (cs.map (·.operator)) ∨ CaseDisagrees cs))) : o.Tells cs := by
  obtain ⟨hpositional, hmixed⟩ := Bool.or_eq_false_iff.1 hflat
  exact {
    positional_iff := iff_of_false (by simp [hpositional]) fun h => hnone ⟨h.1, .inl h.2⟩
    mixedCase_iff := iff_of_false (by simp [hmixed]) fun h => hnone ⟨h.1, .inr h.2⟩
    mem_messages_iff := fun m => iff_of_false (by simp [hmessages]) fun ⟨htwo, _, hp, _⟩ =>
      hnone ⟨htwo, hp.conflict⟩
    nodup := by simp [hmessages]
    not_appliable := by simp [hflat] }

theorem tells_report {text : String} {positional mixed : Bool} {messages : List String}
    (htwo : 2 ≤ cs.length) (h : Reports cs text positional mixed messages) :
    (Outcome.advisory text positional mixed messages).Tells cs where
  positional_iff := h.positional_iff.trans (and_iff_right htwo).symm
  mixedCase_iff := h.mixed_iff.trans (and_iff_right htwo).symm
  mem_messages_iff := by
    obtain ⟨problems, rfl, hproblems, -⟩ := h.messages_eq
    intro m
    rw [and_iff_right htwo]
    simp only [Outcome.messages, List.mem_map, hproblems]
  nodup := h.nodup
  not_appliable := fun _ => rfl

theorem compile_tells (hflags : PlainFlags cs) :
    ∃ o, compile cs .and = .ok o ∧ o.Tells (validOf cs) := by
  match hvalid : validOf cs with
  | [] => exact ⟨_, compile_of_nil hvalid .and, tells_nothing rfl rfl (by simp)⟩
  | [c] => exact ⟨_, compile_of_singleton hvalid .and, tells_nothing rfl rfl (by simp)⟩
  | c :: d :: rest =>
    have htwo : 2 ≤ (validOf cs).length := by simp [hvalid]
    rw [compile_and htwo, ← hvalid]
    rcases combineAnd_class hflags.valid with
      ⟨hno, pattern, heq⟩ | ⟨-, text, positional, mixed, messages, heq, hreports⟩
    · exact ⟨_, heq, tells_nothing rfl rfl fun h => hno h.2⟩
    · exact ⟨_, heq, tells_report htwo hreports⟩

end

/-- All that keeps the first outcome from being applied keeps the second one from it as well. -/
structure Outcome.ConflictsIn (o o' : Outcome) : Prop where
  positional : o.flat.positional = true → o'.flat.positional = true
  mixedCase : o.flat.mixedCase = true → o'.flat.mixedCase = true
  messages : ∀ m ∈ o.messages, m ∈ o'.messages
  not_appliable : o.flat.hasConflict = true → o'.isAppliable = false

theorem Outcome.Tells.conflictsIn {o o' : Outcome} {cs ds : List Condition} (ho : o.Tells cs)
    (ho' : o'.Tells ds) (h : cs.Subperm ds) : o.ConflictsIn o' := by
  have htwo (hlen : 2 ≤ cs.length) : 2 ≤ ds.length := Nat.le_trans hlen h.length_le
  have hpositional (hflag : o.flat.positional = true) : o'.flat.positional = true := by
    obtain ⟨hlen, hclash⟩ := ho.positional_iff.1 hflag
    exact ho'.positional_iff.2 ⟨htwo hlen, hclash.mono (subperm_operators h)⟩
  have hmixed (hflag : o.flat.mixedCase = true) : o'.flat.mixedCase = true := by
    obtain ⟨hlen, hcase⟩ := ho.mixedCase_iff.1 hflag
    exact ho'.mixedCase_iff.2 ⟨htwo hlen, hcase.mono h⟩
  refine ⟨hpositional, hmixed, fun m hm => ?_, fun hconflict => ho'.not_appliable ?_⟩
  · obtain ⟨hlen, p, hp, rfl⟩ := (ho.mem_messages_iff m).1 hm
    exact (ho'.mem_messages_iff _).2 ⟨htwo hlen, p, hp.mono h, rfl⟩
  · exact Bool.or_eq_true_iff.2 ((Bool.or_eq_true_iff.1 hconflict).imp hpositional hmixed)

/-- Conditions that are joined by AND keep their conflicts when more are joined, in any order; in
another order they have the same conflicts. No message is told twice. -/
theorem compile_conflictsIn {xs ys : List Condition} (hflags : PlainFlags ys) (h : xs.Subperm ys) :
    ∃ o o', compile xs .and = .ok o ∧ compile ys .and = .ok o' ∧
      o.messages.Nodup ∧ o'.messages.Nodup ∧ o.ConflictsIn o' ∧
      (xs.Perm ys → o.flat.positional = o'.flat.positional ∧ o.flat.mixedCase = o'.flat.mixedCase ∧
        o.messages.Perm o'.messages) := by
  have hflags' : PlainFlags xs := fun c hc => hflags c (h.subset hc)
  obtain ⟨o, ho, htells⟩ := compile_tells hflags'
  obtain ⟨o', ho', htells'⟩ := compile_tells hflags
  have hin := htells.conflictsIn htells' (h.filter _)
  refine ⟨o, o', ho, ho', htells.nodup, htells'.nodup, hin, fun hperm => ?_⟩
  have hback := htells'.conflictsIn htells (validOf_perm hperm.symm).subperm
  refine ⟨Bool.eq_iff_iff.2 ⟨hin.positional, hback.positional⟩,
    Bool.eq_iff_iff.2 ⟨hin.mixedCase, hback.mixedCase⟩, ?_⟩
  exact (List.perm_ext_iff_of_nodup htells.nodup htells'.nodup).2 fun m =>
    ⟨hin.messages m, hback.messages m⟩

def wordAndValue : List Condition :=
  [{ id := "1", operator := .wordBoundary, value := "HDR", caseSensitive := .bool true },
    { id := "2", operator := .contains, value := "2160p" }]

/-- The same in another order behind a start, beside which a word has no place. -/
def startWordAndValue : List Condition :=
  { id := "3", operator := .startsWith, value := "The" } :: wordAndValue.reverse

theorem wordAndValue_conflictsIn : PlainFlags startWordAndValue ∧
    wordAndValue.Subperm startWordAndValue ∧
    ∃ o o', compile wordAndValue .and = .ok o ∧ compile startWordAndValue .and = .ok o' ∧
      o.ConflictsIn o' ∧ o.messages = [Problem.mixedCase.message] ∧
      o'.messages = ["'Word (Standalone)' cannot be combined with positional conditions using AND",
        Problem.mixedCase.message] := by
  have hflags : PlainFlags startWordAndValue := by
    simp [PlainFlags, startWordAndValue, wordAndValue]
  have hsub : wordAndValue.Subperm startWordAndValue :=
    (List.reverse_perm wordAndValue).symm.subperm.trans List.Subperm.cons_self
  obtain ⟨o, o', ho, ho', -, -, hin, -⟩ := compile_conflictsIn hflags hsub
  have heq : (compile wordAndValue .and).toOption.map (·.messages) = some o.messages := by
    rw [ho]
    rfl
  have heq' : (compile startWordAndValue .and).toOption.map (·.messages) = some o'.messages := by
    rw [ho']
    rfl
  refine ⟨hflags, hsub, o, o', ho, ho', hin, ?_, ?_⟩
  · exact Option.some.inj (heq.symm.trans (by decide +kernel))
  · exact Option.some.inj (heq'.symm.trans (by decide +kernel))

end ReleaseMatch
