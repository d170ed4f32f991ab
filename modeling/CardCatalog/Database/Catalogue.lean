import CardCatalog.Database.Table
import CardCatalog.Surroundings

/-!
The catalogue that a database file holds.
-/

set_option autoImplicit false

namespace CardCatalog.Database

namespace Row

def card (r : Row) : CardRow where
  uuid := r.text "uuid"
  name := r.text "name"
  faceName := r.text? "facename"
  layout := r.text "layout"
  side := r.text? "side"
  setCode := r.text "setcode"
  manaCost := r.text? "manacost"
  cmc := (r.number? "convertedmanacost").getD 0
  power := r.text? "power"
  toughness := r.text? "toughness"
  loyalty := r.text? "loyalty"
  colors := r.text? "colors"
  types := r.text "types"
  subtypes := r.text? "subtypes"
  supertypes := r.text? "supertypes"
  typeLine := r.text "type"
  text := r.text? "text"
  rarity := r.text? "rarity"
  otherFaceIds := r.text? "otherfaceids"
  printings := r.text? "printings"
  availability := r.text "availability"

def date? (r : Row) (column : String) : Option Date :=
  (r.text? column).bind Date.ofText?

def set (r : Row) : SetInfo :=
  ⟨r.text "code", r.text "type", r.date? "releasedate"⟩

def legality (r : Row) : LegalityRow :=
  ⟨r.text "uuid", ⟨r.text "format", r.text "status"⟩⟩

/-- The price of a paper card; other prices are passed over. -/
def price? (r : Row) : Option PriceRow :=
  if r.text "type" = "paper" then
    some ⟨r.text "uuid", r.number? "price", r.date? "date"⟩
  else none

def ruling? (r : Row) : Option RulingRow :=
  (r.date? "date").map fun date => ⟨r.text "uuid", ⟨date, r.text "text"⟩⟩

end Row

def File.catalogue (f : File) : Store where
  cards := (f.table "cards").map Row.card
  tokens := (f.table "tokens").map fun r => r.card.toToken
  sets := (f.table "sets").map Row.set
  legalities := (f.table "legalities").map Row.legality
  prices := (f.table "prices").filterMap Row.price?
  rulings := (f.table "rulings").filterMap Row.ruling?

end CardCatalog.Database

namespace CardCatalog

def FileEntry.ofBytes (bytes : ByteArray) : FileEntry :=
  match Database.File.ofBytes? bytes, String.fromUTF8? bytes with
  | some f, _ => .catalogue f.catalogue
  | none, some s => .text s
  | none, none => .binary

end CardCatalog
