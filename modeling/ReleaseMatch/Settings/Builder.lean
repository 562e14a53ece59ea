import ReleaseMatch.Condition.Operator
import ReleaseMatch.Document.Load
import ReleaseMatch.Settings.Log
set_option autoImplicit false

/-!
# Settings of the builder

What holds for condition sets that leave the combinator open, and for conditions that leave their
case open.
-/
namespace ReleaseMatch

structure BuilderDraft where
  combinator : Value := .text "AND"
  caseSensitive : Value := .bool false

def Combinator.names : List String := ["AND", "OR"]

/-- The name of a combinator. What it stands for is looked up where a condition set is loaded. -/
structure CombinatorName where
  name : String
  deriving DecidableEq, Repr

structure BuilderSettings where
  combinator : CombinatorName
  caseSensitive : Value

namespace BuilderDraft

/-- The name that is stored: in capitals, and one of those known. -/
def name (d : BuilderDraft) : Except SettingFault String := do
  let name := Text.uppered (← d.combinator.textFor "upper")
  if Combinator.names.contains name then return name else throw (.combinator name)

def check (d : BuilderDraft) : Except SettingFault BuilderSettings := do
  return ⟨⟨← d.name⟩, d.caseSensitive⟩

end BuilderDraft

def BuilderSettings.defaults (s : BuilderSettings) : Except UnknownName Document.Defaults := do
  return ⟨← Combinator.ofName s.combinator.name, s.caseSensitive⟩

end ReleaseMatch
