import ReleaseMatch.Log.Journal
import ReleaseMatch.Proofs.Files.Shape
set_option autoImplicit false

/-!
# Setting up the log on files of one shape

Setting up the log opens a file and reads none. So it comes to the same journal, and to the same
complaints, whatever is in the files.
-/
namespace ReleaseMatch

theorem Environment.expand_eq {env env' : Environment} (h : env'.home = env.home) (p : Files.Path) :
    env'.expand p = env.expand p := by
  rw [expand, expand, h]

namespace Log

structure Surface.Alike (out out' : Surface) : Prop where
  tree : out.tree.SameShape out'.tree
  stderr : out'.stderr = out.stderr

section

variable {env env' : Environment} (hhome : env'.home = env.home)

include hhome

theorem openFile_eq (settings : LogSettings) (path : Files.Path) {tree tree' : Files.Tree}
    (h : tree.SameShape tree') :
    (openFile settings env path tree).1.SameShape (openFile settings env' path tree').1 ∧
      (openFile settings env' path tree').2 = (openFile settings env path tree).2 := by
  rw [openFile, openFile, Environment.expand_eq hhome]
  cases env.expand path with
  | error f => exact ⟨h, rfl⟩
  | ok path =>
    dsimp only
    obtain ⟨habove, hfault⟩ := h.makeDirs path.parent.names.length path.parent
    generalize tree.makeDirs path.parent.names.length path.parent = r,
      tree'.makeDirs path.parent.names.length path.parent = r' at habove hfault
    obtain ⟨s, fault⟩ := r
    obtain ⟨s', fault'⟩ := r'
    dsimp only at habove hfault
    subst hfault
    cases fault' with
    | some f => exact ⟨habove, rfl⟩
    | none =>
      dsimp only
      rw [habove.absoluteText_eq, habove.absoluteNames_eq]
      rcases habove.openEnd (s.absoluteNames path) (s.absoluteText path) with
        ⟨f, heq, heq'⟩ | ⟨l, u, u', heq, heq', hshape⟩
      · simp only [heq, heq', and_true]
        exact habove
      · simp only [heq, heq', and_true]
        exact hshape

end

theorem Surface.Alike.print {out out' : Surface} (h : out.Alike out') (text : String) :
    (out.print text).Alike (out'.print text) where
  tree := h.tree
  stderr := by rw [Surface.print, Surface.print, h.stderr]

theorem Sink.emit_alike {s : Sink} (hs : s.target = .stderr) (level : Level) (r : Record)
    {out out' : Surface} (h : out.Alike out') :
    (s.emit level r out).Alike (s.emit level r out') := by
  rw [emit, emit, hs]
  split
  · exact h
  · cases r.line s.format with
    | error f => exact h.print _
    | ok line => exact h.print _

theorem Journal.configure_eq (j : Journal) (settings : LogSettings) {env env' : Environment}
    (hhome : env'.home = env.home) (now : Value) {out out' : Surface} (h : out.Alike out') :
    (j.configure settings env' now out').1 = (j.configure settings env now out).1 ∧
      (j.configure settings env now out).2.1.Alike (j.configure settings env' now out').2.1 ∧
      (j.configure settings env' now out').2.2 = (j.configure settings env now out).2.2 := by
  rw [configure, configure]
  cases settings.file with
  | none => exact ⟨rfl, h, rfl⟩
  | some path =>
    dsimp only
    obtain ⟨hshape, hopened⟩ := openFile_eq hhome settings path h.tree
    generalize openFile settings env path out.tree = r,
      openFile settings env' path out'.tree = r' at hshape hopened
    obtain ⟨s, opened⟩ := r
    obtain ⟨s', opened'⟩ := r'
    dsimp only at hshape hopened
    subst hopened
    cases opened' with
    | target t => exact ⟨rfl, ⟨hshape, h.stderr⟩, rfl⟩
    | broken f => exact ⟨rfl, ⟨hshape, h.stderr⟩, rfl⟩
    | unavailable f =>
      refine ⟨rfl, ?_, rfl⟩
      have hout : ({ out with tree := s } : Surface).Alike { out' with tree := s' } :=
        ⟨hshape, h.stderr⟩
      have hsinks : sinksFor settings none =
          [⟨.stderr, Level.ofName settings.level, Format.ofName settings.format⟩] := by
        simp [sinksFor]
      dsimp only
      rw [note, note, write, write, hsinks]
      split
      · exact hout
      · exact Sink.emit_alike rfl _ _ hout

end Log
end ReleaseMatch
