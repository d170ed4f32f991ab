import CardCatalog.Text.Blank

/-!
Lists kept in one text column. Names are separated by commas that no space follows, because a
name may itself hold a comma and a space; sets of tags are separated by every comma; the names of
the faces of a card are separated by two slashes between spaces.
-/

set_option autoImplicit false

namespace CardCatalog.NameList

/-- Splits at each comma that is followed by something other than a space. -/
def splitNames : List Char → List (List Char)
  | [] => [[]]
  | [c] => [[c]]
  | c :: d :: rest =>
    if c = ',' && d ≠ ' ' then [] :: splitNames (d :: rest)
    else
      match splitNames (d :: rest) with
      | [] => [[c]]
      | name :: names => (c :: name) :: names

def names (list : String) : List String :=
  (splitNames list.toList).map String.ofList

/-- Whether the value is one of the names; a missing list or value never is. -/
def holds (list value : Option String) : Bool :=
  match list, value with
  | some list, some value => (names list).contains value
  | _, _ => false

/-- The name at an index; there is none outside the list. -/
def get? (list : Option String) (index : Int) : Option String :=
  match list with
  | some list => if index < 0 then none else (names list)[index.toNat]?
  | none => none

/-- The tags of a set; an empty text is the empty set. -/
def tags (list : String) : List String :=
  if list = "" then [] else (Text.splitOn ',' list.toList).map String.ofList

def tagCount (list : Option String) : Nat :=
  match list with
  | some list => (tags list).eraseDups.length
  | none => 0

/-- Whether every tag of `b` is a tag of `a`. A missing set is empty. -/
def includes (a b : Option String) : Bool :=
  let a := tags (a.getD "")
  (tags (b.getD "")).all a.contains

/-- Splits at each `" // "`. -/
def splitFaces : List Char → List (List Char)
  | [] => [[]]
  | ' ' :: '/' :: '/' :: ' ' :: rest => [] :: splitFaces rest
  | c :: rest =>
    match splitFaces rest with
    | [] => [[c]]
    | face :: faces => (c :: face) :: faces

def faces (name : String) : List String :=
  (splitFaces name.toList).map String.ofList

def face? (name : Option String) (index : Int) : Option String :=
  match name with
  | some name => if index < 0 then none else (faces name)[index.toNat]?
  | none => none

end CardCatalog.NameList
