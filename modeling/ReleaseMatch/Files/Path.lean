set_option autoImplicit false

/-!
# Paths

A path from the root or from the working directory, as its names in order. Empty names and single
dots do not count; two dots stay, since what they lead to depends on the files. Two slashes at the
start are kept apart from one.
-/
namespace ReleaseMatch

inductive NoHome
  | unknown
  | nullCharacter
  deriving DecidableEq, Repr

def NoHome.message : NoHome → String
  | .unknown => "Could not determine home directory."
  | .nullCharacter => "embedded null byte"

def NoHome.kind : NoHome → String
  | .unknown => "RuntimeError"
  | .nullCharacter => "ValueError"

namespace Files

structure Path where
  root : String
  names : List String
  deriving DecidableEq, Repr

def splitNames (cs : List Char) : List String :=
  let parts := cs.foldr (fun c parts =>
    if c = '/' then [] :: parts
    else
      match parts with
      | part :: rest => (c :: part) :: rest
      | [] => [[c]]) [[]]
  (parts.map String.ofList).filter fun s => s != "" && s != "."

def rootOf (cs : List Char) : String :=
  match cs with
  | '/' :: '/' :: '/' :: _ => "/"
  | '/' :: '/' :: _ => "//"
  | '/' :: _ => "/"
  | _ => ""

namespace Path

def ofText (s : String) : Path :=
  ⟨rootOf s.toList, splitNames s.toList⟩

def text (p : Path) : String :=
  let joined := p.root ++ "/".intercalate p.names
  if joined = "" then "." else joined

def isAbsolute (p : Path) : Bool := p.root != ""

def parent (p : Path) : Path := { p with names := p.names.dropLast }

/-- The names with each pair of dots taken back together with the name before it. -/
def foldDots (names : List String) : List String :=
  (names.foldl (fun done name =>
    if name = ".." then done.tail else name :: done) []).reverse

end Path

/-! ## Home directories -/

/-- Home directories as they are written: that of whoever runs the program, and those of the users that
are known, by their names. -/
structure Homes where
  own : String
  users : List (String × String) := []

/-- A place with no other user. -/
instance : Coe String Homes := ⟨fun own => { own }⟩

/-- The path of a home directory. Slashes at its end do not count, and one that starts with a tilde
itself leads nowhere. -/
def homePath? (text : String) : Option Path :=
  match (text.toList.reverse.dropWhile (· == '/')).reverse with
  | [] => some ⟨"/", []⟩
  | '~' :: _ => none
  | cs => some ⟨rootOf cs, splitNames cs⟩

/-- The home directory that is written as a tilde with the name of a user, or without. -/
def Homes.find (homes : Homes) (user : String) : Except NoHome Path :=
  if user.toList.contains '\x00' then .error .nullCharacter
  else
    match (if user = "" then some homes.own else homes.users.lookup user).bind homePath? with
    | some p => .ok p
    | none => .error .unknown

/-- A tilde at the start, with a name right behind it or without, stands for a home directory. -/
def Path.expandHome (p : Path) (homes : Homes) : Except NoHome Path :=
  match p.root, p.names with
  | "", first :: rest =>
    match first.toList with
    | '~' :: user => do
      let home ← homes.find (String.ofList user)
      return { home with names := home.names ++ rest }
    | _ => .ok p
  | _, _ => .ok p

end Files
end ReleaseMatch
