import ReleaseMatch.Proofs.Engine.Free
import ReleaseMatch.Proofs.Reading.Fragment
set_option autoImplicit false

/-!
# Joining the parts of a fragment

Characters of one mode in a row become the literals of that mode, whatever stands in front of them, as
long as that is compared in the same way or exactly. Hence a fragment that is read piece by piece
stands for the sequence of its pieces.
-/
namespace ReleaseMatch.Pattern

open Literal

def Node.IsBare (n : Node) : Prop := n.isQuiet = true ∧ n.isFree = true

theorem isBare_simpleLiteral (cs : List Char) : ∀ n ∈ simpleLiteral cs, n.IsBare := by
  intro n hn
  rw [simpleLiteral] at hn
  split at hn
  · exact absurd hn (by simp)
  · split at hn
    all_goals
      obtain rfl := List.mem_singleton.1 hn
      exact ⟨rfl, rfl⟩

theorem isBare_fullLiteral (cs : List Char) : ∀ n ∈ fullLiteral cs, n.IsBare := by
  intro n hn
  rw [fullLiteral.eq_def] at hn
  split at hn
  · exact absurd hn (by simp)
  · split at hn
    · obtain rfl := List.mem_singleton.1 hn
      exact ⟨rfl, rfl⟩
    · exact isBare_simpleLiteral _ n hn
  · obtain rfl := List.mem_singleton.1 hn
    exact ⟨rfl, rfl⟩

theorem isBare_cutLiteral (cs : List Char) (stretches : List (Nat × Nat)) :
    ∀ position, ∀ n ∈ cutLiteral cs position stretches, n.IsBare := by
  induction stretches with
  | nil =>
    intro position
    exact isBare_simpleLiteral _
  | cons stretch stretches ih =>
    intro position n hn
    rw [cutLiteral, List.mem_append, List.mem_append] at hn
    rcases hn with (hn | hn) | hn
    · exact isBare_simpleLiteral _ n hn
    · exact isBare_fullLiteral _ n hn
    · exact ih _ n hn

theorem isBare_literals (mode : CaseMode) (cs : List Char) : ∀ n ∈ literals mode cs, n.IsBare := by
  intro n hn
  rw [literals] at hn
  split at hn
  · exact absurd hn (by simp)
  · split at hn
    · obtain rfl := List.mem_singleton.1 hn
      exact ⟨rfl, rfl⟩
    · split at hn
      · obtain rfl := List.mem_singleton.1 hn
        exact ⟨rfl, rfl⟩
      · exact isBare_cutLiteral _ _ _ n hn

theorem isBare_ofList {ns : List Node} (h : ∀ n ∈ ns, n.IsBare) : (Node.ofList ns).IsBare := by
  induction ns with
  | nil => exact ⟨rfl, rfl⟩
  | cons n ns ih =>
    have hn := h n List.mem_cons_self
    have hns := ih fun m hm => h m (List.mem_cons_of_mem n hm)
    cases ns with
    | nil => exact hn
    | cons m ns =>
      exact ⟨Bool.and_eq_true_iff.2 ⟨hn.1, hns.1⟩, Bool.and_eq_true_iff.2 ⟨hn.2, hns.2⟩⟩

/-- Joins no characters with those before it. -/
def Breaks (parts : List Node) : Prop :=
  ∀ mode run, joinCharacters parts mode run =
    literals mode run.reverse ++ joinCharacters parts mode []

@[simp] theorem literals_nil (mode : CaseMode) : literals mode [] = [] := rfl

theorem breaks_nil : Breaks [] := by
  intro mode run
  simp [joinCharacters]

def Node.IsWhole (n : Node) : Prop :=
  ∀ rest mode run, joinCharacters (n :: rest) mode run =
    literals mode run.reverse ++ n :: joinCharacters rest mode []

theorem Node.IsWhole.breaks {n : Node} (h : n.IsWhole) (rest : List Node) : Breaks (n :: rest) := by
  intro mode run
  rw [h rest mode run, h rest mode []]
  simp

theorem isWhole_of_ne_char {n : Node} (h : ∀ c mode, n ≠ .char c mode) : n.IsWhole := by
  intro rest mode run
  cases n with
  | char c m => exact absurd rfl (h c m)
  | _ => rfl

theorem isWhole_anything : Node.anything.IsWhole :=
  isWhole_of_ne_char fun _ _ => Node.noConfusion

theorem isWhole_something : Node.something.IsWhole :=
  isWhole_of_ne_char fun _ _ => Node.noConfusion

theorem isWhole_anchor (a : Anchor) : (Node.anchor a).IsWhole :=
  isWhole_of_ne_char fun _ _ => Node.noConfusion

/-- The parts are joined to these nodes, behind anything of the mode. -/
def Joins (mode : CaseMode) (parts nodes : List Node) : Prop :=
  ∀ start, start = .exact ∨ start = mode → joinCharacters parts start [] = nodes

namespace Joins

variable {mode : CaseMode} {parts nodes : List Node}

theorem nil : Joins mode [] [] := by
  intro start hstart
  rfl

theorem cons {n : Node} (hn : n.IsWhole) (h : Joins mode parts nodes) :
    Joins mode (n :: parts) (n :: nodes) := by
  intro start hstart
  rw [hn parts start [], h start hstart]
  rfl

theorem joinCharacters_run (hparts : Breaks parts) (h : Joins mode parts nodes) (cs run : List Char) :
    joinCharacters (cs.map (Node.char · mode) ++ parts) mode run =
      literals mode (run.reverse ++ cs) ++ nodes := by
  induction cs generalizing run with
  | nil =>
    rw [List.map_nil, List.nil_append, hparts mode run, h mode (.inr rfl), List.append_nil]
  | cons c cs ih =>
    simp only [List.map_cons, List.cons_append, joinCharacters, ne_eq, not_true_eq_false,
      decide_false, Bool.false_and, Bool.false_eq_true, if_false, ih]
    simp

theorem literal (hparts : Breaks parts) (h : Joins mode parts nodes) (cs : List Char) :
    Joins mode (cs.map (Node.char · mode) ++ parts) (literals mode cs ++ nodes) := by
  intro start hstart
  cases cs with
  | nil => exact h start hstart
  | cons c cs =>
    have hrun := joinCharacters_run hparts h cs [c]
    rcases hstart with rfl | rfl
    · simp only [List.map_cons, List.cons_append, joinCharacters]
      by_cases hmode : mode = .exact
      · subst hmode
        simpa using hrun
      · simpa [hmode] using hrun
    · exact joinCharacters_run hparts h (c :: cs) []

end Joins

theorem parts_look (behind positive : Bool) (body : Node) :
    (Node.look behind positive body).parts = [.look behind positive body.join] := rfl

theorem parts_ofList (ns : List Node) : (Node.ofList ns).parts = ns.flatMap Node.parts := by
  induction ns with
  | nil => rfl
  | cons n ns ih =>
    cases ns with
    | nil => simp [Node.ofList]
    | cons m ns => simpa [Node.ofList, Node.parts] using ih

def itemParts (items : List (Option Node)) : List Node :=
  (items.filterMap id).flatMap Node.parts

theorem itemParts_append (xs ys : List (Option Node)) :
    itemParts (xs ++ ys) = itemParts xs ++ itemParts ys := by
  simp [itemParts]

theorem itemParts_spelled (mode : CaseMode) (cs : List Char) :
    itemParts (spelled mode cs) = cs.map (Node.char · mode) := by
  induction cs with
  | nil => rfl
  | cons c cs ih => simpa [itemParts, spelled, Node.parts] using ih

theorem join_ofList {items : List (Option Node)} {mode : CaseMode} {nodes : List Node}
    (h : Joins mode (itemParts items) nodes) :
    (Node.ofList (items.filterMap id)).join = .ofList nodes := by
  rw [Node.join, parts_ofList, joined]
  exact congrArg Node.ofList (h .exact (.inl rfl))

theorem mixesEncodings_of_alike {r : Reader} {sensitive : Bool}
    (h : r.flags.Alike (caseFlags sensitive)) : r.mixesEncodings = false := by
  rw [Reader.mixesEncodings, funext h]
  cases sensitive <;> rfl

/-- A text that is read as a sequence of nodes wherever it stands outside other flags. -/
def StandsFor (word : List Char) (nodes : List Node) : Prop :=
  ∃ sensitive items, ReadAs sensitive word items ∧
    Joins (caseModeOf sensitive) (itemParts items) nodes

def Regex.ofNodes (nodes : List Node) : Regex := ⟨.ofList nodes, 0, [], false⟩

namespace StandsFor

variable {word : List Char} {nodes : List Node}

theorem read (h : StandsFor word nodes) : Regex.read word = .ok (.ofNodes nodes) := by
  obtain ⟨sensitive, items, hread, hjoins⟩ := h
  obtain ⟨flags, hflags, hsteps⟩ :=
    hread.steps { rest := word } [] (.of_eq rfl) (by simp) isPlainEnd_nil
  rw [Regex.read_of_steps hsteps.toSteps rfl rfl rfl List.not_mem_nil (mixesEncodings_of_alike hflags)]
  have hnode : (Level.gain {} items).node.join = .ofList nodes := by
    rw [Level.node_gain, join_ofList hjoins]
  simpa [Reader.gain, Regex.ofNodes] using hnode

theorem tester {pattern : String} (h : StandsFor pattern.toList nodes) :
    Tester.read pattern = .ok ⟨pattern, .ofNodes nodes⟩ := by
  rw [Tester.read, h.read]
  rfl

theorem look (h : StandsFor word nodes) :
    ∃ n : Node, ReadIn true ("(?=.*".toList ++ (word ++ [')'])) [some n] ∧
      n.parts = [.look false true (.ofList (Node.anything :: nodes))] := by
  obtain ⟨sensitive, items, hread, hjoins⟩ := h
  refine ⟨.look false true (Level.gain {} ([some Node.anything, none] ++ items)).node,
    ⟨fun r rest hf hr _ => ?_, fun rest _ => isPlainEnd_cons (by decide)⟩, ?_⟩
  · have hplain := hread.plain (')' :: rest) (isPlainEnd_cons (by decide))
    -- Behind the start of the lookahead, any characters and then the word are read.
    let inner := r.open_ (.look false true) ('.' :: '*' :: (word ++ ')' :: rest))
    have hany : inner.PlainSteps _ := Reader.steps_anything hf rfl hplain
    obtain ⟨flags, hflags, hword⟩ :=
      hread.steps (inner.gain [some Node.anything, none] (word ++ ')' :: rest)) (')' :: rest) hf rfl
        (isPlainEnd_cons (by decide))
    rw [Reader.gain_gain] at hword
    have hrest : r.rest = '(' :: '?' :: '=' :: (('.' :: '*' :: word) ++ ')' :: rest) := by
      simpa using hr
    exact Reader.steps_ahead (Reader.isVerbose_of_flags hf) hrest
      (by rw [hflags.isVerbose_eq, caseFlags_isVerbose]) (hany.trans hword)
  · have hparts : itemParts ([some Node.anything, none] ++ items) =
        Node.anything :: itemParts items := by
      rw [itemParts_append]
      rfl
    have hwhole := hjoins.cons isWhole_anything
    rw [← hparts] at hwhole
    rw [parts_look, Level.node_gain, join_ofList hwhole]

end StandsFor

/-- A text that is read as a sequence of nodes behind flags for its case. -/
def Spells (sensitive : Bool) (word : List Char) (nodes : List Node) : Prop :=
  ∃ items, ReadIn sensitive word items ∧ Joins (caseModeOf sensitive) (itemParts items) nodes

/-- A text that is read as a sequence of nodes, none of which is joined with what stands before. -/
def SpellsApart (sensitive : Bool) (word : List Char) (nodes : List Node) : Prop :=
  ∃ items, ReadIn sensitive word items ∧ Joins (caseModeOf sensitive) (itemParts items) nodes ∧
    Breaks (itemParts items)

namespace SpellsApart

variable {sensitive : Bool} {word : List Char} {nodes : List Node}

theorem nil : SpellsApart sensitive [] [] := ⟨[], .nil, .nil, breaks_nil⟩

theorem spells (h : SpellsApart sensitive word nodes) : Spells sensitive word nodes := by
  obtain ⟨items, hread, hjoins, -⟩ := h
  exact ⟨items, hread, hjoins⟩

theorem literal (h : SpellsApart sensitive word nodes) (cs : List Char) :
    Spells sensitive (escapeChars cs ++ word) (literals (caseModeOf sensitive) cs ++ nodes) := by
  obtain ⟨items, hread, hjoins, hbreaks⟩ := h
  refine ⟨_, (ReadIn.literal cs).append hread, ?_⟩
  rw [itemParts_append, itemParts_spelled]
  exact hjoins.literal hbreaks cs

end SpellsApart

namespace Spells

variable {sensitive : Bool} {word : List Char} {nodes : List Node}

theorem whole {piece : List Char} {items : List (Option Node)} {n : Node}
    (h : Spells sensitive word nodes) (hpiece : ReadIn sensitive piece items)
    (hparts : itemParts items = [n]) (hn : n.IsWhole) :
    SpellsApart sensitive (piece ++ word) (n :: nodes) := by
  obtain ⟨others, hread, hjoins⟩ := h
  have hall : itemParts (items ++ others) = n :: itemParts others := by
    rw [itemParts_append, hparts]
    rfl
  refine ⟨_, hpiece.append hread, ?_, ?_⟩
  · rw [hall]
    exact hjoins.cons hn
  · rw [hall]
    exact hn.breaks _

theorem anything (h : Spells sensitive word nodes) :
    SpellsApart sensitive (['.', '*'] ++ word) (Node.anything :: nodes) :=
  h.whole .anything rfl isWhole_anything

theorem something (h : Spells sensitive word nodes) :
    SpellsApart sensitive (['.', '+'] ++ word) (Node.something :: nodes) :=
  h.whole .something rfl isWhole_something

theorem boundary (h : Spells sensitive word nodes) :
    SpellsApart sensitive (['\\', 'b'] ++ word) (.anchor (.boundary .word) :: nodes) :=
  h.whole .boundary rfl (isWhole_anchor _)

theorem caret (h : Spells sensitive word nodes) :
    SpellsApart sensitive (['^'] ++ word) (.anchor .textStart :: nodes) :=
  h.whole .caret rfl (isWhole_anchor _)

theorem dollar (h : Spells sensitive word nodes) :
    SpellsApart sensitive (['$'] ++ word) (.anchor .lastLineEnd :: nodes) :=
  h.whole .dollar rfl (isWhole_anchor _)

theorem look {ahead : List Char} {found : List Node} (h : Spells true word nodes)
    (hahead : StandsFor ahead found) :
    SpellsApart true ("(?=.*".toList ++ (ahead ++ [')']) ++ word)
      (.look false true (.ofList (Node.anything :: found)) :: nodes) := by
  obtain ⟨n, hread, hparts⟩ := hahead.look
  refine h.whole hread ?_ (isWhole_of_ne_char fun _ _ => Node.noConfusion)
  simpa [itemParts] using hparts

theorem without {ahead : List Char} {found : List Node} (h : Spells sensitive word nodes)
    (hahead : Spells sensitive ahead found) :
    SpellsApart sensitive ("(?!".toList ++ (ahead ++ [')']) ++ word)
      (.look false false (.ofList found) :: nodes) := by
  obtain ⟨items, hread, hjoins⟩ := hahead
  have hlook : ReadIn sensitive ("(?!".toList ++ (ahead ++ [')']))
      [some (.look false false (Level.gain {} items).node)] := by
    refine ⟨fun r rest hf hr _ => ?_, fun rest _ => isPlainEnd_cons (by decide)⟩
    have hv := Reader.isVerbose_of_flags hf
    have hahead := hread.steps (r.open_ (.look false false) (ahead ++ ')' :: rest)) (')' :: rest) hf
      rfl (isPlainEnd_cons (by decide))
    exact Reader.steps_ahead hv (by simpa using hr) hv hahead
  refine h.whole hlook ?_ (isWhole_of_ne_char fun _ _ => Node.noConfusion)
  change Node.parts _ ++ [] = _
  rw [parts_look, Level.node_gain, join_ofList hjoins, List.append_nil]

theorem standsFor (h : Spells sensitive word nodes) :
    StandsFor ((flagOf sensitive).toList ++ word) nodes := by
  obtain ⟨items, hread, hjoins⟩ := h
  exact ⟨sensitive, items, hread.flagged, hjoins⟩

end Spells
end ReleaseMatch.Pattern
