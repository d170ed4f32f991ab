import CardCatalog.Card.Basic

/-!
Rules that relate the faces of a card: which faces are printed together and in what order, what
a card with several faces is called, and when a face stands for another one.
-/

set_option autoImplicit false

namespace CardCatalog

/-- The name under which the whole card is found, when a face of this side and layout never
stands for the card: the second half of a card whose halves share a side. -/
def wholeCardName (layout : Layout) (side : Option Side) (names : List String) : Option String :=
  if layout.sharesSide && side = some .b then names.head? else none

/-- The place of a side among printed faces; a face without a side comes first. -/
def sideRank : Option Side → Nat
  | none => 0
  | some s => s.rank

namespace Card

/-- The faces printed together with a card, in the order of their sides. A meld card is printed
with the card that it melds into and not with its partner. -/
def printedFaces (c : Card) : List Card :=
  let faces := c :: c.otherFaces
  let faces :=
    if c.side.isSome then faces.mergeSort fun a b => decide (sideRank a.side ≤ sideRank b.side)
    else faces
  if c.layout = .meld then faces.filter fun f => f.side = c.side || f.side = some .c
  else faces

def fullName (c : Card) : String :=
  if c.isMultiFaced then " // ".intercalate (c.printedFaces.map (·.name)) else c.name

def fullManaCost (c : Card) : String :=
  if c.isMultiFaced then " // ".intercalate (c.printedFaces.filterMap (·.manaCost))
  else c.manaCost.getD ""

end Card

end CardCatalog
