import ReleaseMatch.Catalog
import ReleaseMatch.Condition.Operator
import ReleaseMatch.Terminal.Course
import ReleaseMatch.Terminal.Layout
set_option autoImplicit false

/-!
# Listings

The two commands that list what conditions can be made of.
-/
namespace ReleaseMatch.Terminal

open Layout

def operatorLine (op : Operator) : String :=
  column 14 op.name ++ " " ++ column 26 op.label ++ " "
    ++ (if op.requiresValue then "value required" else "no value")

def operatorsCourse : Course := .exit .success (Operator.all.map fun op => .print (operatorLine op))

def fieldLine (f : Field) : String :=
  column 14 f.key ++ " " ++ column 15 f.label ++ " " ++ f.description

def presetLines (key : String) : List String :=
  match Catalog.presets key with
  | [] => ["  (no presets)"]
  | presets => presets.map ("  " ++ ·)

def fieldsCourse (key : Option String) : Course :=
  match key with
  | none => .exit .success (Catalog.fields.map fun f => .print (fieldLine f))
  | some key =>
    match Catalog.field? key with
    | none =>
      .exit .validationError [.complain (String.join ["Error: Unknown field '", key,
        "'. Known fields: ", ", ".intercalate (Catalog.fields.map (·.key))])]
    | some f =>
      .exit .success (.print (f.label ++ ": " ++ f.description)
        :: (presetLines key).map .print)

end ReleaseMatch.Terminal
