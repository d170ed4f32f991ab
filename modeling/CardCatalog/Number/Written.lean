import CardCatalog.Number.Shortest

/-!
Written forms of floats: plain positional digits without an exponent, as in messages and query
values, and the form of data files, which always shows that the number is a float.
-/

set_option autoImplicit false

namespace CardCatalog.Number

def zeros (n : Nat) : List Char :=
  List.replicate n '0'

/-- Digits with the point in its place, without an exponent; whole numbers have no point. -/
def Decimal.positional (d : Decimal) : List Char :=
  let digits := decimalDigits d.digits
  if 0 ≤ d.exponent then digits ++ zeros d.exponent.toNat
  else
    let places := (-d.exponent).toNat
    if places < digits.length then
      digits.take (digits.length - places) ++ '.' :: digits.drop (digits.length - places)
    else '0' :: '.' :: zeros (places - digits.length) ++ digits

def signed (negative : Bool) (cs : List Char) : List Char :=
  if negative then '-' :: cs else cs

/-- The shortest digits that read back, never with an exponent. -/
def plainText (x : Float) : String :=
  match view x with
  | .nan => "NaN"
  | .infinite negative => String.ofList (signed negative ['i', 'n', 'f'])
  | .finite negative significand exponent =>
    String.ofList (signed negative
      (if significand = 0 then ['0'] else (shortest significand exponent .up).positional))

def Decimal.scientific (d : Decimal) : List Char :=
  let digits := decimalDigits d.digits
  let power : Int := d.exponent + digits.length - 1
  let mantissa := match digits with
    | first :: second :: rest => first :: '.' :: second :: rest
    | short => short
  mantissa ++ 'e' :: (toString power).toList

/-- The form of data files: positional from `10 ^ -5` up to `10 ^ 16`, with at least one digit
after the point, and scientific outside; what is no finite number has no such form. -/
def dataText? (x : Float) : Option String :=
  match view x with
  | .finite negative significand exponent =>
    some (String.ofList (signed negative
      (if significand = 0 then ['0', '.', '0']
      else
        let d := shortest significand exponent .even
        let places : Int := (decimalDigits d.digits).length + d.exponent
        if 0 ≤ d.exponent && places ≤ 16 then d.positional ++ ['.', '0']
        else if -5 < places && places ≤ 16 then d.positional
        else d.scientific)))
  | _ => none

end CardCatalog.Number
