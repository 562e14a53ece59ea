import ReleaseMatch.Pattern.Class
import ReleaseMatch.Text.Block.Table
set_option autoImplicit false

/-!
# Names of properties

Patterns name properties of characters: general categories, scripts, blocks and binary properties,
each with a long and a short name. Case, blanks, hyphens and underscores in a name do not count.
-/
namespace ReleaseMatch.Pattern

open Text

def normalName (s : String) : String :=
  String.ofList ((s.toList.filter fun c => !(['_', '-', ' '].contains c)).flatMap upper)

def categoryNames : List (List String × List Category) := [
  (["L", "LETTER"], [.Lu, .Ll, .Lt, .Lm, .Lo]),
  (["LC", "L&", "CASEDLETTER"], [.Lu, .Ll, .Lt]),
  (["LU", "UPPERCASELETTER"], [.Lu]),
  (["LL", "LOWERCASELETTER"], [.Ll]),
  (["LT", "TITLECASELETTER"], [.Lt]),
  (["LM", "MODIFIERLETTER"], [.Lm]),
  (["LO", "OTHERLETTER"], [.Lo]),
  (["M", "M&", "MARK", "COMBININGMARK"], [.Mn, .Mc, .Me]),
  (["MN", "NONSPACINGMARK"], [.Mn]),
  (["MC", "SPACINGMARK"], [.Mc]),
  (["ME", "ENCLOSINGMARK"], [.Me]),
  (["N", "N&", "NUMBER"], [.Nd, .Nl, .No]),
  (["ND", "DECIMALNUMBER", "DIGIT"], [.Nd]),
  (["NL", "LETTERNUMBER"], [.Nl]),
  (["NO", "OTHERNUMBER"], [.No]),
  (["P", "P&", "PUNCTUATION", "PUNCT"], [.Pc, .Pd, .Ps, .Pe, .Pi, .Pf, .Po]),
  (["PC", "CONNECTORPUNCTUATION"], [.Pc]),
  (["PD", "DASHPUNCTUATION"], [.Pd]),
  (["PS", "OPENPUNCTUATION"], [.Ps]),
  (["PE", "CLOSEPUNCTUATION"], [.Pe]),
  (["PI", "INITIALPUNCTUATION"], [.Pi]),
  (["PF", "FINALPUNCTUATION"], [.Pf]),
  (["PO", "OTHERPUNCTUATION"], [.Po]),
  (["S", "S&", "SYMBOL"], [.Sm, .Sc, .Sk, .So]),
  (["SM", "MATHSYMBOL"], [.Sm]),
  (["SC", "CURRENCYSYMBOL"], [.Sc]),
  (["SK", "MODIFIERSYMBOL"], [.Sk]),
  (["SO", "OTHERSYMBOL"], [.So]),
  (["Z", "Z&", "SEPARATOR"], [.Zs, .Zl, .Zp]),
  (["ZS", "SPACESEPARATOR"], [.Zs]),
  (["ZL", "LINESEPARATOR"], [.Zl]),
  (["ZP", "PARAGRAPHSEPARATOR"], [.Zp]),
  (["C", "C&", "OTHER"], [.Cc, .Cf, .Cs, .Co, .Cn]),
  (["CC", "CONTROL", "CNTRL"], [.Cc]),
  (["CF", "FORMAT"], [.Cf]),
  (["CS", "SURROGATE"], [.Cs]),
  (["CO", "PRIVATEUSE"], [.Co]),
  (["CN", "UNASSIGNED"], [.Cn])]

def ofCategories (cs : List Category) : Class := .property (.category cs)

def categoryClass? (name : String) : Option Class :=
  if name = "ASSIGNED" then some (.compl (ofCategories [.Cn]))
  else (categoryNames.find? fun row => row.1.contains name).map fun row => ofCategories row.2

def scriptClass? (name : String) : Option Class :=
  (scriptNames.find? fun row => normalName row.1 == name || row.2.any (normalName · == name)).map
    fun row => .property (.script row.1)

def blockClass? (name : String) : Option Class :=
  (blocks.find? fun row => row.2.2 == name).map fun row => .property (.block row.1 row.2.1)

/-- What shows on paper: everything but blanks, controls and what is not assigned. -/
def graphic : Class :=
  .compl (.union (.property .space)
    (ofCategories [.Zs, .Zl, .Zp, .Cc, .Cs, .Cn]))

/-- The classes of traditional regular expressions, as far as they are not properties of the
standard. -/
def traditional? (name : String) : Option Class :=
  match name with
  | "ANY" => some (.property .any)
  | "ASCII" => some (.property .ascii)
  | "WORD" => some (.property .word)
  | "SPACE" | "WHITESPACE" | "WSPACE" => some (.property .space)
  | "BLANK" => some (.property .blank)
  | "GRAPH" => some graphic
  | "PRINT" => some (.union graphic (.property .blank))
  | "ALNUM" => some (.union (.property (.binary "Alphabetic")) (ofCategories [.Nd]))
  | "POSIXALNUM" => some (.union (.property (.binary "Alphabetic")) (.range '0' '9'))
  | "POSIXDIGIT" => some (.range '0' '9')
  | "XDIGIT" => some (.union (ofCategories [.Nd]) (.property (.binary "Hex_Digit")))
  | "POSIXXDIGIT" | "ASCIIHEXDIGIT" | "AHEX" =>
    some (.union (.range '0' '9') (.union (.range 'A' 'F') (.range 'a' 'f')))
  | "POSIXPUNCT" =>
    some (.diff (ofCategories [.Pc, .Pd, .Ps, .Pe, .Pi, .Pf, .Po, .Sm, .Sc, .Sk, .So])
      (.property (.binary "Alphabetic")))
  | _ => none

def binaryClass? (name : String) : Option Class :=
  (traditional? name).or
    ((propertyRows.find? fun row => row.names.any (normalName · == name)).bind fun row =>
      row.names.head?.map fun n => .property (.binary n))

/-- What comes after `first` in a name. -/
def after? (first name : String) : Option String :=
  if first.toList.isPrefixOf name.toList then some (String.ofList (name.toList.drop first.length))
  else none

def classNamed? (name : String) : Option Class :=
  (categoryClass? name).or <| (scriptClass? name).or <| (blockClass? name).or <|
    (binaryClass? name).or <| ((after? "IS" name).bind binaryClass?).or <|
      ((after? "IS" name).bind scriptClass?).or ((after? "IN" name).bind blockClass?)

inductive LookupFault
  | property
  | value
  deriving DecidableEq, Repr

/-- The value of a binary property, if the name is one. -/
def truth? (name : String) : Option Bool :=
  if ["YES", "Y", "TRUE", "T"].contains name then some true
  else if ["NO", "N", "FALSE", "F"].contains name then some false
  else none

def valueClass (property value : String) : Except LookupFault Class :=
  let pick (c : Option Class) : Except LookupFault Class :=
    match c with
    | some c => .ok c
    | none => .error .value
  if ["GC", "GENERALCATEGORY"].contains property then pick (categoryClass? value)
  else if ["SC", "SCRIPT", "SCX", "SCRIPTEXTENSIONS"].contains property then
    pick (scriptClass? value)
  else if ["BLK", "BLOCK"].contains property then pick (blockClass? value)
  else
    match binaryClass? property with
    | none => .error .property
    | some c => pick ((truth? value).map fun yes => if yes then c else .compl c)

/-- The class that a name stands for, as it is written: alone or as a value of a property. Among
the traditional classes four stay narrower than the properties of the same name. -/
def lookupClass (isPosix : Bool) (property : Option String) (value : String) :
    Except LookupFault Class :=
  let value := normalName value
  match property with
  | some p => valueClass (normalName p) value
  | none =>
    let narrow := isPosix && ["ALNUM", "DIGIT", "PUNCT", "XDIGIT"].contains value
    match classNamed? (if narrow then "POSIX" ++ value else value) with
    | some c => .ok c
    | none => .error .property

/-- A property by itself, where case is ignored: capitals and small letters of any kind go
together. -/
def Property.ignoringCase : Property → Property
  | .category cs =>
    if cs = [.Lu] || cs = [.Ll] || cs = [.Lt] then .category [.Lu, .Ll, .Lt] else .category cs
  | .binary name =>
    if name = "Uppercase" || name = "Lowercase" then .binary "Cased" else .binary name
  | p => p

end ReleaseMatch.Pattern
