import CardCatalog.Display.Listing
import CardCatalog.Display.Sheet
import CardCatalog.Text.Ascii
import CardCatalog.Text.LetterCase

/-!
The page of one card: its picture and, where they are wanted, its price and printings, its
formats, and its rulings.
-/

set_option autoImplicit false

namespace CardCatalog.Display

def statusWidth : Nat := 6

/-- The status in small letters, cut with a point when it is too long. -/
def abbreviate (status : String) : List Char :=
  let low := (Text.lower status).toList
  if statusWidth < low.length then low.take (statusWidth - 1) ++ ['.'] else low

/-- The text with its first letter made large. -/
def capitalize : List Char → List Char
  | [] => []
  | c :: rest => Text.upperChar c ++ rest

/-- Fills a text on the right to a number of characters. -/
def fillTo (count : Nat) (cs : List Char) : List Char :=
  cs ++ blanks (count - cs.length)

def statusOf (formats : List Legality) (format : String) : List Char :=
  match formats.find? fun l => Text.sameFolded l.format format with
  | some l => abbreviate l.status
  | none => []

/-- Two more than the bytes of the longest name in a column. -/
def labelWidth (names : List String) : Nat :=
  (names.map String.utf8ByteSize).foldl max 0 + 2

def formatCell (formats : List Legality) (width : Nat) (format : String) : List Char :=
  fillTo width (capitalize format.toList ++ [':']) ++ statusOf formats format

def leftCellWidth : Nat := 19

def formatLine (left right : List Char) : List Char :=
  Text.trimEnd (blanks 2 ++ fillTo leftCellWidth left ++ right)

/-- The formats in pairs, with the columns to which their labels are filled. -/
def formatLines (formats : List Legality) (leftWidth rightWidth : Nat) :
    List String → List (List Char)
  | [] => []
  | [last] => [formatLine (formatCell formats leftWidth last) []]
  | left :: right :: rest =>
    formatLine (formatCell formats leftWidth left) (formatCell formats rightWidth right) ::
      formatLines formats leftWidth rightWidth rest

/-- Every second item, from the first one on. -/
def everySecond {α : Type} : List α → List α
  | [] => []
  | [a] => [a]
  | a :: _ :: rest => a :: everySecond rest

def formatsSection (formats : List Legality) (shown : List String) : List (List Char) :=
  formatLines formats (labelWidth (everySecond shown)) (labelWidth (everySecond (shown.drop 1)))
    shown

def printingWidth : Nat := 18

/-- A set code, starred for a main set, and the price if there is one. -/
def printingText (rate : Float) (mainCodes : List String) (p : Printing) : List Char :=
  let label := p.setCode.toList ++ if mainCodes.contains p.setCode then ['*'] else []
  match p.price with
  | some _ => fillTo 4 label ++ [' ', '('] ++ (priceText rate p.price).toList ++ [')']
  | none => label

def ceilDiv (n d : Nat) : Nat :=
  (n + d - 1) / d

def indented (line : List Char) : List Char :=
  blanks 2 ++ line

def printingsSection? (rate : Float) (printings : List Printing) (sets : List SetInfo) :
    Option (List (List Char)) :=
  let mainCodes := (sets.filter SetInfo.isMain).map (·.code)
  let items := printings.map (printingText rate mainCodes)
  let columns := chunks (ceilDiv items.length 4) items
  (columnize? printingWidth 0 true columns).map (·.map indented)

/-- The rulings of one column, each followed by its date, with an empty line between them. -/
def rulingColumn (width : Nat) (rulings : List Ruling) : List (List Char) :=
  (rulings.flatMap fun r =>
    wrap (width - 2) r.text.toList ++ ['(' :: r.date.chars ++ [')'], []]).dropLast

def rulingsSection? (width : Nat) (rulings : List Ruling) : Option (List (List Char)) :=
  let split := ceilDiv rulings.length 2
  let columns := [rulings.take split, rulings.drop split].map (rulingColumn width)
  (columnize? width 0 true columns).map (·.map indented)

def verboseSection? (settings : DisplaySettings) (c : Card) (printings : List Printing)
    (sets : List SetInfo) : Option (List (List Char)) := do
  let price := "Price (" ++ settings.currency ++ "): " ++ priceText settings.rate c.price
  let heading := "Printings (" ++ settings.currency ++ "):"
  let printings ← printingsSection? settings.rate printings sets
  return [[], Text.trimEnd price.toList, [], heading.toList, []] ++ printings ++
    [[], "Formats:".toList, []] ++ formatsSection (c.formats.getD []) settings.shownFormats

def rulingsPart? (rulings : Option (List Ruling)) : Option (List (List Char)) :=
  match rulings with
  | none => some []
  | some [] => some [[], "No rulings.".toList]
  | some rulings => do
    let lines ← rulingsSection? sheetWidth rulings
    return [[], "Rulings:".toList, []] ++ lines

def cardPage? (settings : DisplaySettings) (c : Card) (printings : Option (List Printing))
    (sets : List SetInfo) : Option (List (List Char)) := do
  let sheet ← cardSheet? sheetWidth c
  let details ← match printings with
    | some printings => verboseSection? settings c printings sets
    | none => some []
  let rulings ← rulingsPart? c.rulings
  return sheet ++ details ++ rulings

end CardCatalog.Display
