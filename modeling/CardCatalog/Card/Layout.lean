/-!
How the faces of a physical card relate to each other, and which of them a stored row describes.
-/

set_option autoImplicit false

namespace CardCatalog

/-- The layout `other` stands for every one whose cards have one face only. -/
inductive Layout where
  | normal
  | split
  | aftermath
  | flip
  | adventure
  | transform
  | meld
  | other
  deriving DecidableEq, Repr

namespace Layout

/-- The layouts whose cards are stored as more than one row. -/
def multiFace : List Layout :=
  [adventure, aftermath, flip, split, transform, meld]

def name : Layout → String
  | normal => "normal"
  | split => "split"
  | aftermath => "aftermath"
  | flip => "flip"
  | adventure => "adventure"
  | transform => "transform"
  | meld => "meld"
  | other => "other"

def ofName (s : String) : Layout :=
  if s = "normal" then normal
  else if s = "split" then split
  else if s = "aftermath" then aftermath
  else if s = "flip" then flip
  else if s = "adventure" then adventure
  else if s = "transform" then transform
  else if s = "meld" then meld
  else other

@[simp]
theorem ofName_name (l : Layout) : ofName l.name = l := by
  cases l <;> rfl

/-- Whether both halves lie on one side of the physical card, so that its first half stands for
the whole card. -/
def sharesSide : Layout → Bool
  | flip | adventure | split | aftermath => true
  | _ => false

end Layout

inductive Side where
  | a
  | b
  | c
  deriving DecidableEq, Repr

namespace Side

def name : Side → String
  | a => "a"
  | b => "b"
  | c => "c"

def ofName? (s : String) : Option Side :=
  if s = "a" then some a
  else if s = "b" then some b
  else if s = "c" then some c
  else none

@[simp]
theorem ofName?_name (s : Side) : ofName? s.name = some s := by
  cases s <;> rfl

/-- The place of a side in printed order. -/
def rank : Side → Nat
  | a => 1
  | b => 2
  | c => 3

end Side

end CardCatalog
