/-!
Settings of the catalogue: where the cards are, and how prices and formats are shown.
-/

set_option autoImplicit false

namespace CardCatalog

/-- The formats listed with a card unless others are chosen, in this order. -/
def usualFormats : List String :=
  [ "standard", "brawl", "pioneer", "historic", "modern", "pauper", "legacy", "penny", "vintage",
    "commander" ]

structure DisplaySettings where
  /-- The label shown next to prices. -/
  currency : String := "USD"
  /-- How many units of the currency are one dollar. -/
  rate : Float := 1
  /-- The format in which a card must be legal when none is asked for. -/
  defaultFormat : Option String := none
  shownFormats : List String := usualFormats

structure Config where
  databasePath : String := "AllPrintings.sqlite"
  display : DisplaySettings := {}

end CardCatalog
