import CardCatalog.Card.Faces
import CardCatalog.Display.Column

/-!
The picture of a card in a box of lines: name and cost, type and set, the text, and the strength
at the bottom. Faces on the two sides of a card stand side by side, and halves of one side stand
one above the other.
-/

set_option autoImplicit false

namespace CardCatalog.Display

def sheetWidth : Nat := 36

def minTextLines : Nat := 6

/-- The paragraphs of a text. A line ends at a line feed, and a carriage return before it belongs
to the end; after the last line feed nothing follows unless there is text. -/
def paragraphs (cs : List Char) : List (List Char) :=
  let lines := Text.splitOn '\n' cs
  let ended := lines.dropLast.map fun line =>
    if line.getLast? = some '\r' then line.dropLast else line
  match lines.getLast? with
  | some [] | none => ended
  | some last => ended ++ [last]

/-- The lines of a card's text, with an empty line between paragraphs. -/
def textLines (limit : Nat) (c : Card) : List (List Char) :=
  let wrapped := (paragraphs (c.text.getD "").toList).map (wrap limit)
  [[]].intercalate wrapped

def rule (n : Nat) : List Char :=
  List.replicate n '─'

def bordered (inner : List Char) : List Char :=
  '│' :: inner ++ ['│']

/-- The picture of one face, with at least `minText` lines of text. -/
def faceBox? (width minText : Nat) (c : Card) : Option (List (List Char)) := do
  let inner := width - 2
  let textWidth := inner - 2
  let title ← spread? inner c.name.toList (c.manaCost.getD "").toList
  let kind ← spread? inner c.typeLine.toList c.setCode.toList
  let lines := textLines textWidth c
  let lines := lines ++ List.replicate (minText - lines.length) []
  let body ← lines.mapM fun line =>
    (pad? textWidth line).map fun line => bordered (' ' :: line ++ [' '])
  let strength ← padLeft? inner c.strength.toList
  return [ '┌' :: rule inner ++ ['┐'], bordered title, bordered (blanks inner), bordered kind,
           bordered (blanks inner) ] ++ body ++
         [ bordered strength, '└' :: rule inner ++ ['┘'] ]

def cardSheet? (width : Nat) (c : Card) : Option (List (List Char)) := do
  let faces := c.printedFaces
  if 1 < faces.length && (c.layout = .transform || c.layout = .meld) then
    let longest := (faces.map fun f => (textLines (width - 4) f).length).foldl max minTextLines
    let boxes ← faces.mapM (faceBox? width longest)
    columnize? width 2 false boxes
  else
    let boxes ← faces.mapM (faceBox? width minTextLines)
    return boxes.flatten

end CardCatalog.Display
