import CardCatalog.Card.Date
import CardCatalog.Card.Layout
import CardCatalog.Card.SetKind

/-!
Cards as a catalogue answers with them: the face that was found, with everything printed on it,
and its other faces.
-/

set_option autoImplicit false

namespace CardCatalog

/-- The identity of a face and the identities of the other faces of its card. -/
structure FaceGroup where
  uuid : String
  side : Option Side
  siblings : List String
  deriving DecidableEq

/-- The identities in a column of them: trimmed, and without the empty ones. -/
def siblingIds (column : Option String) : List String :=
  match column with
  | some ids => ((Text.splitOn ',' ids.toList).map (String.ofList ∘ Text.trimChars)).filter (· ≠ "")
  | none => []

def FaceGroup.ofColumn (uuid : String) (side : Option Side) (column : Option String) :
    FaceGroup :=
  ⟨uuid, side, siblingIds column⟩

structure Legality where
  format : String
  status : String
  deriving DecidableEq

structure Ruling where
  date : Date
  text : String
  deriving DecidableEq

/-- A set in which a card was printed, with the price of the cheapest printing there. -/
structure Printing where
  setCode : String
  price : Option Float

structure SetInfo where
  code : String
  kind : String
  date : Option Date
  deriving DecidableEq

def SetInfo.isMain (s : SetInfo) : Bool :=
  SetKind.isMain s.kind

/-- One face with everything that is printed on it or known of it. The name is that of the face
when the card has several; `names` are those of all faces, and empty when there is only one. -/
structure Face where
  name : String
  names : List String := []
  group : FaceGroup
  layout : Layout
  token : Bool := false
  setCode : String
  manaCost : Option String := none
  cmc : Float := 0
  power : Option String := none
  toughness : Option String := none
  loyalty : Option String := none
  colors : List String := []
  types : List String
  typeLine : String
  text : Option String := none
  rarity : Option String := none
  printings : List String := []
  price : Option Float := none
  priceDate : Option Date := none
  formats : Option (List Legality) := none
  rulings : Option (List Ruling) := none

/-- A face together with the other faces of its card. -/
structure Card extends Face where
  otherFaces : List Card := []

namespace Card

def side (c : Card) : Option Side :=
  c.group.side

def isMultiFaced (c : Card) : Bool :=
  !c.names.isEmpty

def mainType (c : Card) : String :=
  c.types.headD ""

/-- Power and toughness of a creature, or the loyalty of a planeswalker. -/
def strength (c : Card) : String :=
  match c.power, c.loyalty with
  | some power, _ => power ++ "/" ++ c.toughness.getD ""
  | none, some loyalty => loyalty
  | none, none => ""

end Card

end CardCatalog
