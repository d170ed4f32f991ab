import CardCatalog.Text.Blank
import CardCatalog.Text.Width

/-!
Text in columns of a fixed width: cutting and filling, wrapping, and setting columns side by
side. Text is cut by the widths of its characters, but takes one more column for every control
character in it; where that makes a cut text too wide to be filled up, there is no result.
-/

set_option autoImplicit false

namespace CardCatalog.Display

def blanks (n : Nat) : List Char :=
  List.replicate n ' '

/-- How many characters at the front of a text fit when `used` columns are taken. -/
def fitting (limit used : Nat) : List Char → Nat
  | [] => 0
  | c :: rest =>
    if used + Text.charWidth c ≤ limit then 1 + fitting limit (used + Text.charWidth c) rest
    else 0

/-- The longest front of a text that fits. -/
def truncate (limit : Nat) (cs : List Char) : List Char :=
  cs.take (fitting limit 0 cs)

def pad? (limit : Nat) (cs : List Char) : Option (List Char) :=
  let cut := truncate limit cs
  let width := Text.textWidth cut
  if width ≤ limit then some (cut ++ blanks (limit - width)) else none

def padLeft? (limit : Nat) (cs : List Char) : Option (List Char) :=
  let cut := truncate limit cs
  let width := Text.textWidth cut
  if width ≤ limit then some (blanks (limit - width) ++ cut) else none

/-- Two texts at the ends of one line, at least one space apart; the right one is kept when
there is no room for both. -/
def spread? (limit : Nat) (left right : List Char) : Option (List Char) :=
  let right := truncate limit right
  let width := Text.textWidth right
  if width ≤ limit then
    let room := limit - width
    let leftRoom := if right = [] then room else room - 1
    (pad? leftRoom left).map fun left => left ++ blanks (room - leftRoom) ++ right
  else none

/-- Cuts a word that is too wide into full lines and what is left of it. A single character that
is wider than a line is a line. -/
def breakWord (limit : Nat) : List Char → List (List Char) × List Char
  | [] => ([], [])
  | c :: rest =>
    if limit < Text.textWidth (c :: rest) then
      let count := max 1 (fitting limit 0 (c :: rest))
      let next := breakWord limit ((c :: rest).drop count)
      ((c :: rest).take count :: next.1, next.2)
    else ([], c :: rest)
termination_by cs => cs.length
decreasing_by
  simp only [List.length_drop, List.length_cons]
  omega

def flush (line : List Char) : List (List Char) :=
  if line = [] then [] else [line]

/-- Sets words after the line that has been begun. -/
def wrapWords (limit : Nat) (line : List Char) : List (List Char) → List (List Char)
  | [] => flush line
  | word :: words =>
    let (full, rest) := breakWord limit word
    let done := if full = [] then [] else flush line ++ full
    let line := if full = [] then line else []
    if rest = [] then done ++ wrapWords limit line words
    else if line = [] then done ++ wrapWords limit rest words
    else if limit < Text.textWidth line + 1 + Text.textWidth rest then
      done ++ line :: wrapWords limit rest words
    else done ++ wrapWords limit (line ++ ' ' :: rest) words

/-- The lines of one paragraph, each filled with as many words as fit. -/
def wrap (limit : Nat) (text : List Char) : List (List Char) :=
  if limit = 0 then [] else wrapWords limit [] (Text.words text)

/-- The text without white space at its end. -/
def trimRow (strip : Bool) (row : List Char) : List Char :=
  if strip then Text.trimEnd row else row

/-- One row of columns side by side, `gap` spaces apart. -/
def joinCells? (width gap : Nat) : List (List Char) → Option (List Char)
  | [] => some []
  | [cell] => pad? width cell
  | cell :: cells => do
    let first ← pad? width cell
    let others ← joinCells? width gap cells
    return first ++ blanks gap ++ others

/-- Columns side by side; shorter columns are filled with blanks. -/
def columnize? (width gap : Nat) (strip : Bool) (columns : List (List (List Char))) :
    Option (List (List Char)) :=
  let rows := (columns.map List.length).foldl max 0
  (List.range rows).mapM fun i =>
    (joinCells? width gap (columns.map fun column => column[i]?.getD [])).map (trimRow strip)

/-- The parts of a list, each of a given length but the last. -/
def chunks {α : Type} (size : Nat) (items : List α) : List (List α) :=
  if _h : items = [] ∨ size = 0 then []
  else items.take size :: chunks size (items.drop size)
termination_by items.length
decreasing_by
  have : items.length ≠ 0 := by simp_all
  simp only [List.length_drop]
  omega

end CardCatalog.Display
