import CardCatalog.Card.Basic
import CardCatalog.Number.Binary64

/-!
The stored tables of a catalogue, each a list of rows in the order in which they were inserted. A
row that is inserted again under the same identity takes the place of the old one at the end.
-/

set_option autoImplicit false

namespace CardCatalog

/-- One face of a card as it is stored; the name is that of the whole card. -/
structure CardRow where
  uuid : String
  name : String
  faceName : Option String := none
  layout : String := "normal"
  side : Option String := none
  setCode : String := ""
  manaCost : Option String := none
  cmc : Float := 0
  power : Option String := none
  toughness : Option String := none
  loyalty : Option String := none
  colors : Option String := none
  types : String := ""
  subtypes : Option String := none
  supertypes : Option String := none
  typeLine : String := ""
  text : Option String := none
  rarity : Option String := none
  otherFaceIds : Option String := none
  printings : Option String := none
  availability : String := "paper"

structure TokenRow where
  uuid : String
  name : String
  faceName : Option String
  layout : String
  side : Option String
  setCode : String
  power : Option String
  toughness : Option String
  colors : Option String
  types : String
  typeLine : String
  text : Option String

/-- The part of a row that a token has. -/
def CardRow.toToken (r : CardRow) : TokenRow where
  uuid := r.uuid
  name := r.name
  faceName := r.faceName
  layout := r.layout
  side := r.side
  setCode := r.setCode
  power := r.power
  toughness := r.toughness
  colors := r.colors
  types := r.types
  typeLine := r.typeLine
  text := r.text

structure LegalityRow where
  uuid : String
  legality : Legality

structure PriceRow where
  uuid : String
  price : Option Float
  date : Option Date

structure RulingRow where
  uuid : String
  ruling : Ruling

structure Store where
  cards : List CardRow := []
  tokens : List TokenRow := []
  sets : List SetInfo := []
  legalities : List LegalityRow := []
  prices : List PriceRow := []
  rulings : List RulingRow := []

/-- The display name: the name of the face where there is one. -/
def CardRow.displayName (r : CardRow) : String :=
  r.faceName.getD r.name

def TokenRow.displayName (r : TokenRow) : String :=
  r.faceName.getD r.name

namespace Store

def empty : Store := {}

/-- A float as it is stored: what is not a number is missing, and zero has no sign. -/
def storedFloat (x : Float) : Option Float :=
  if Number.isNaN x then none
  else if Number.orderKey x = 0 then some 0
  else some x

def insertCard (s : Store) (r : CardRow) : Store :=
  let r := { r with cmc := (storedFloat r.cmc).getD 0 }
  { s with cards := s.cards.filter (·.uuid ≠ r.uuid) ++ [r] }

def insertToken (s : Store) (r : TokenRow) : Store :=
  { s with tokens := s.tokens.filter (·.uuid ≠ r.uuid) ++ [r] }

def insertSet (s : Store) (info : SetInfo) : Store :=
  { s with sets := s.sets.filter (·.code ≠ info.code) ++ [info] }

def insertLegality (s : Store) (uuid : String) (l : Legality) : Store :=
  { s with legalities := s.legalities ++ [⟨uuid, l⟩] }

def insertPrice (s : Store) (uuid : String) (price : Float) (date : Option Date) : Store :=
  { s with prices := s.prices ++ [⟨uuid, storedFloat price, date⟩] }

def insertRuling (s : Store) (uuid : String) (r : Ruling) : Store :=
  { s with rulings := s.rulings ++ [⟨uuid, r⟩] }

def set? (s : Store) (code : String) : Option SetInfo :=
  s.sets.find? (·.code = code)

def card? (s : Store) (uuid : String) : Option CardRow :=
  s.cards.find? (·.uuid = uuid)

def legalitiesOf (s : Store) (uuid : String) : List Legality :=
  (s.legalities.filter (·.uuid = uuid)).map (·.legality)

def pricesOf (s : Store) (uuid : String) : List PriceRow :=
  s.prices.filter (·.uuid = uuid)

def rulingsOf (s : Store) (uuid : String) : List Ruling :=
  (s.rulings.filter (·.uuid = uuid)).map (·.ruling)

def formatsOf (s : Store) (uuid : String) : List Legality :=
  (s.legalitiesOf uuid).eraseDups.mergeSort fun a b => decide (a.format ≤ b.format)

/-- The order of dates as they are stored, no date first. -/
def dateOrder (a b : Option Date) : Ordering :=
  compare (a.map Date.text) (b.map Date.text)

/-- The price of the latest day; of several, the one that was stored first. -/
def latestPrice (s : Store) (uuid : String) : Option PriceRow :=
  ((s.pricesOf uuid).mergeSort fun a b => dateOrder a.date b.date != .lt).head?

end Store

end CardCatalog
