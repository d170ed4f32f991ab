import CardCatalog.Toml.Reader

/-!
Quoted strings. Between double quotes a backslash names a character; between single quotes every
character stands for itself. Strings between three quotes may go over several lines, whose ends
are all read as line feeds; one or two quotes may stand in them anywhere, also at their end.
-/

set_option autoImplicit false

namespace CardCatalog.Toml

open Reader

/-- The character with a code point, if it is one. -/
def charOf? (n : Nat) : Option Char :=
  if n.isValidChar then some (Char.ofNat n) else none

/-- The character that a letter after a backslash names, with its code point where it has one. -/
def named : Reader Char := do
  match ← one fun _ => true with
  | '"' => return '"'
  | '\\' => return '\\'
  | 'b' => return '\x08'
  | 'f' => return '\x0c'
  | 'n' => return '\n'
  | 'r' => return '\r'
  | 't' => return '\t'
  | 'u' => codePoint 4
  | 'U' => codePoint 8
  | _ => failure
where
  codePoint (digits : Nat) : Reader Char := do
    match charOf? (numberOf 16 (← count isHexDigit digits)) with
    | some c => return c
    | none => failure

/-- The rest of a string up to its double quote. -/
def basicRest : (fuel : Nat) → Reader (List Char)
  | 0 => failure
  | fuel + 1 => do
    match ← one isPlain with
    | '"' => return []
    | '\\' => return (← named) :: (← basicRest fuel)
    | c => return c :: (← basicRest fuel)

/-- A string between double quotes, on one line. -/
def basicString : Reader String := do
  char '"'
  String.ofList <$> basicRest (← left)

/-- A string between single quotes, on one line. -/
def literalString : Reader String := do
  char '\''
  let cs ← run fun c => isPlain c && c != '\''
  char '\''
  return String.ofList cs

/-- At three or more quotes the string ends, and of more than three the first one or two belong
to it; fewer are part of it. -/
def closing? (quote : Char) : Reader (List Char × Bool) := do
  let quotes ← run (· == quote)
  let n := quotes.length
  if n < 3 then return (quotes, false)
  else
    guard (n ≤ 5)
    return (quotes.drop 3, true)

/-- Spaces and ends of lines. -/
def skipLines : (fuel : Nat) → Reader Unit
  | 0 => gap
  | fuel + 1 => do
    gap
    if ← lineEnd? then skipLines fuel

/-- What a backslash stands for in a string of several lines: at the end of a line for nothing,
and then the space up to the next text is left out. -/
def namedInLines : Reader (List Char) := do
  if ← ahead (do gap; guard (← lineEnd?)) then
    skipLines (← left)
    return []
  else return [← named]

/-- The rest of a string of several lines. -/
def linesRest (quote : Char) (escapes : Bool) : (fuel : Nat) → Reader (List Char)
  | 0 => failure
  | fuel + 1 => do
    match ← peek? with
    | none => failure
    | some c =>
      if c == quote then
        let (quotes, closed) ← closing? quote
        if closed then return quotes else return quotes ++ (← linesRest quote escapes fuel)
      else if ← lineEnd? then return '\n' :: (← linesRest quote escapes fuel)
      else if escapes && c == '\\' then
        char '\\'
        return (← namedInLines) ++ (← linesRest quote escapes fuel)
      else
        let c ← one isPlain
        return c :: (← linesRest quote escapes fuel)

/-- A string between three quotes; an end of line right after them is left out. -/
def lines (quote : Char) (escapes : Bool) : Reader String := do
  word [quote, quote, quote]
  discard lineEnd?
  String.ofList <$> linesRest quote escapes (← left)

def string : Reader String :=
  lines '"' true <|> basicString <|> lines '\'' false <|> literalString

end CardCatalog.Toml
