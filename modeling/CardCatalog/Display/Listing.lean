import CardCatalog.Card.Faces
import CardCatalog.Config.Basic
import CardCatalog.Display.Column
import CardCatalog.Number.Rounding

/-!
Listings of cards: names only, or one line of details for each card.
-/

set_option autoImplicit false

namespace CardCatalog.Display

/-- A price in dollars, converted and rounded to hundredths; nothing when it is not known. -/
def priceText (rate : Float) (price : Option Float) : String :=
  match price with
  | some usd => "$" ++ Number.hundredthsText (usd * rate)
  | none => ""

def rarityLetter (rarity : Option String) : String :=
  match rarity with
  | some "mythic" => "M"
  | some "rare" => "R"
  | some "uncommon" => "U"
  | some "common" => "C"
  | some "special" => "S"
  | _ => ""

def nameListing (allFaces : Bool) (cards : List Card) : List String :=
  cards.map fun c => if allFaces then c.fullName else c.name

/-- The widths of name, set, mana cost, type, strength and rarity. -/
def detailWidths : List Nat := [32, 5, 15, 14, 7, 3]

def detailRow? (cells : List String) (price : String) : Option String := do
  let padded ← (cells.zip detailWidths).mapM fun (cell, width) => pad? width cell.toList
  return String.ofList (Text.trimEnd (padded.flatten ++ price.toList))

def detailHeader : List String := ["NAME", "SET", "MANA", "TYPE", "PT|L", "R"]

def cardDetails? (rate : Float) (c : Card) : Option String :=
  detailRow?
    [ String.ofList (truncate 30 c.fullName.toList), c.setCode, c.fullManaCost, c.mainType,
      c.strength, rarityLetter c.rarity ]
    (priceText rate c.price)

def detailListing? (settings : DisplaySettings) (header : Bool) (cards : List Card) :
    Option (List String) := do
  let top ← if header then (detailRow? detailHeader settings.currency).map ([·]) else some []
  let rows ← cards.mapM (cardDetails? settings.rate)
  return top ++ rows

end CardCatalog.Display
