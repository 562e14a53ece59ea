import ReleaseMatch.Text.Runs
import ReleaseMatch.Text.Script.Table
import ReleaseMatch.Text.Property.Table
set_option autoImplicit false

/-!
# Scripts and binary properties

The script of a character, by its code of four letters, and the binary properties of Unicode that
patterns can name.
-/
namespace ReleaseMatch.Text

def scripts : Runs String :=
  Runs.ofLengths (readRuns scriptRuns.toList 0 [])

def script (c : Char) : String :=
  (scripts.find? c.toNat).getD "Zzzz"

/-- Stretches by turns outside and inside, the first one outside. -/
def alternating : List Nat → Bool → List (Nat × Bool)
  | [], inside => [(0, inside)]
  | n :: rest, inside => (n, inside) :: alternating rest !inside

def PropertyRow.runs (row : PropertyRow) : Runs Bool :=
  Runs.ofLengths (alternating (readLengths row.stretches) false)

def properties : List (List String × Runs Bool) :=
  propertyRows.map fun row => (row.names, row.runs)

/-- Whether a character has the property of that name. No character has an unknown one. -/
def hasProperty (name : String) (c : Char) : Bool :=
  match properties.find? (fun row => row.1.contains name) with
  | some row => (row.2.find? c.toNat).getD false
  | none => false

end ReleaseMatch.Text
