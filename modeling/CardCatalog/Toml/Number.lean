import CardCatalog.Number.Rounding
import CardCatalog.Toml.Reader
import CardCatalog.Toml.Value

/-!
Numbers of settings documents. Between two digits an underscore may stand; integers fit in 64 bits
and may be written in another base, and floats have a point or a power of ten.
-/

set_option autoImplicit false

namespace CardCatalog.Toml

open Reader

/-- Digits in which every underscore stands before a digit. -/
def moreDigits (isDigit : Char → Bool) : List Char → Option (List Char × List Char)
  | '_' :: c :: rest => if isDigit c then (moreDigits isDigit rest).map (.map (c :: ·) id) else none
  | ['_'] => none
  | c :: rest =>
    if isDigit c then (moreDigits isDigit rest).map (.map (c :: ·) id) else some ([], c :: rest)
  | [] => some ([], [])

def digitRun (isDigit : Char → Bool) : Reader (List Char) := do
  let c ← one isDigit
  return c :: (← moreDigits isDigit)

/-- The digits of a decimal number, of which the first is zero only if there is no other. -/
def wholeDigits : Reader (List Char) := do
  if ← word? ['0'] then return ['0'] else digitRun Char.isDigit

/-- Whether there is a minus sign; a plus sign may stand in its place. -/
def minus? : Reader Bool := do
  if ← word? ['-'] then return true
  else
    discard (word? ['+'])
    return false

/-- The power of ten after a letter, if there is one. -/
def power? : Reader (Option Int) := do
  if (← word? ['e']) || (← word? ['E']) then
    let negative ← minus?
    let n : Int := numberOf 10 (← digitRun Char.isDigit)
    return some (if negative then -n else n)
  else return none

def integer (n : Int) : Reader Value := do
  guard (-(Nat.pow 2 63 : Int) ≤ n ∧ n < Nat.pow 2 63)
  return .integer n

/-- An infinite float must be written as one, except below every finite float. -/
def float (negative : Bool) (x : Float) : Reader Value := do
  guard (negative || Number.isFinite x)
  return .float (if negative then -x else x)

def decimalNumber : Reader Value := do
  let negative ← minus?
  let whole ← wholeDigits
  let fraction ← if ← word? ['.'] then some <$> digitRun Char.isDigit else pure none
  let power ← power?
  match fraction, power with
  | none, none =>
    let n : Int := numberOf 10 whole
    integer (if negative then -n else n)
  | _, _ =>
    let fraction := fraction.getD []
    let decimal : Number.Decimal :=
      ⟨numberOf 10 (whole ++ fraction), power.getD 0 - fraction.length⟩
    float negative decimal.toFloat

/-- An integer in another base, after its mark. -/
def based (letter : Char) (base : Nat) (isDigit : Char → Bool) : Reader Value := do
  word ['0', letter]
  integer (numberOf base (← digitRun isDigit))

/-- A float that is no number, or greater than every other. -/
def specialFloat : Reader Value := do
  let negative ← minus?
  if ← word? ['i', 'n', 'f'] then
    return .float (if negative then -1.0 / 0.0 else 1.0 / 0.0)
  else
    word ['n', 'a', 'n']
    return .float (0.0 / 0.0)

def number : Reader Value :=
  based 'x' 16 isHexDigit <|> based 'o' 8 (fun c => '0' ≤ c && c ≤ '7') <|>
    based 'b' 2 (fun c => c == '0' || c == '1') <|> decimalNumber <|> specialFloat

end CardCatalog.Toml
