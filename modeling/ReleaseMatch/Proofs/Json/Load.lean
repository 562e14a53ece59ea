import ReleaseMatch.Proofs.Json.Nodes
import ReleaseMatch.Yaml.Load
set_option autoImplicit false

/-!
# JSON text as a document

The JSON text of a mapping is a document that stands for that mapping, but for the numbers that are read as
text.
-/
namespace ReleaseMatch.Json

open Yaml Read

variable {entries : List (Value × Value)}

theorem isAcceptable_of_isPlainAscii {c : Char} (h : isPlainAscii c = true) : isAcceptable c = true := by
  simp only [isPlainAscii, Bool.and_eq_true, decide_eq_true_eq] at h
  have hrange : 0x20 ≤ c.toNat ∧ c.toNat ≤ 0x7E := by omega
  simp [isAcceptable, hrange.1, hrange.2]

section

variable (hportable : (Value.map entries).IsPortable) (hmodest : (Value.map entries).IsModest)

include hportable hmodest

theorem ofText?_line : ∃ n, Node.ofText? (line (.map entries)) = .ok (some n) ∧ n.Gives (Value.map entries).asRead := by
  obtain ⟨hkinds, -⟩ := tokens_line hportable hmodest
  have hhead : kinds (.map entries) = .flowMappingStart :: (entryKinds entries ++ [.flowMappingEnd]) := rfl
  refine ofText?_of_kinds hkinds hhead rfl fun fuel hread hfuel => ?_
  exact reads hportable hmodest { block := true } hread (by omega)

theorem load_line : load (line (.map entries)) = .ok (Value.map entries).asRead := by
  obtain ⟨n, hread, hgives⟩ := ofText?_line hportable hmodest
  have hplain : (line (.map entries)).findIdx? (!isAcceptable ·) = none := by
    rw [List.findIdx?_eq_none_iff]
    intro c hc
    rw [isAcceptable_of_isPlainAscii (isPlain_line hportable.isWritable c hc)]
    rfl
  rw [load, hplain]
  dsimp only
  rw [hread]
  dsimp only
  rw [construct_of_gives hgives]
  rfl

end

end ReleaseMatch.Json
