/-!
Readers: what they read at the front of a text and the rest of the text, or nothing when the text
has not the right form.
-/

set_option autoImplicit false

namespace CardCatalog.Toml

abbrev Reader (α : Type) := StateT (List Char) Option α

namespace Reader

def left : Reader Nat := fun cs =>
  some (cs.length, cs)

/-- The next character, which is not consumed. -/
def peek? : Reader (Option Char) := fun cs =>
  some (cs.head?, cs)

/-- Whether a reader could read what is next; nothing is consumed. -/
def ahead {α : Type} (r : Reader α) : Reader Bool := fun cs =>
  some ((r cs).isSome, cs)

def one (p : Char → Bool) : Reader Char
  | c :: rest => if p c then some (c, rest) else none
  | [] => none

def char (c : Char) : Reader Unit :=
  discard (one (· == c))

/-- Consumes a word if it is next. -/
def word? (word : List Char) : Reader Bool := fun cs =>
  if word.isPrefixOf cs then some (true, cs.drop word.length) else some (false, cs)

def word (w : List Char) : Reader Unit := do
  guard (← word? w)

/-- The longest run of characters of a kind. -/
def run (p : Char → Bool) : Reader (List Char) := fun cs =>
  some (cs.takeWhile p, cs.dropWhile p)

/-- The longest run of characters of a kind, of which there is at least one. -/
def run1 (p : Char → Bool) : Reader (List Char) := do
  let cs ← run p
  guard (cs ≠ [])
  return cs

/-- Exactly so many characters of a kind. -/
def count (p : Char → Bool) : Nat → Reader (List Char)
  | 0 => return []
  | n + 1 => do
    let c ← one p
    return c :: (← count p n)

/-- What a reader reads from a whole text. -/
def whole {α : Type} (r : Reader α) (cs : List Char) : Option α :=
  match r cs with
  | some (a, []) => some a
  | _ => none

end Reader

open Reader

def isGap (c : Char) : Bool :=
  c == ' ' || c == '\t'

/-- Spaces and tabs. -/
def gap : Reader Unit :=
  discard (run isGap)

/-- Characters that stand for themselves: all but control characters; a tab is no control
character. -/
def isPlain (c : Char) : Bool :=
  c == '\t' || (' ' ≤ c && c != '\x7f')

/-- The end of a line, if there is one. -/
def lineEnd? : Reader Bool := do
  return (← word? ['\n']) || (← word? ['\r', '\n'])

/-- A remark up to the end of the line, if there is one. -/
def remark? : Reader Bool := do
  if ← word? ['#'] then
    discard (run isPlain)
    return true
  else return false

/-- What may stand after the last value of a line, and the end of the line or of the text. -/
def restOfLine : Reader Unit := do
  gap
  discard remark?
  if (← peek?).isSome then guard (← lineEnd?)

/-- Spaces, ends of lines and whole remarks, with at most `fuel` ends of lines. -/
def spaceLines : (fuel : Nat) → Reader Unit
  | 0 => gap
  | fuel + 1 => do
    gap
    let remarked ← remark?
    if ← lineEnd? then spaceLines fuel
    else guard (!remarked)

def space : Reader Unit := do
  spaceLines (← left)

def digitValue (c : Char) : Nat :=
  if c.isDigit then c.toNat - '0'.toNat else c.toLower.toNat - 'a'.toNat + 10

def isHexDigit (c : Char) : Bool :=
  c.isDigit || ('a' ≤ c.toLower && c.toLower ≤ 'f')

def numberOf (base : Nat) (digits : List Char) : Nat :=
  digits.foldl (fun n c => base * n + digitValue c) 0

end CardCatalog.Toml
