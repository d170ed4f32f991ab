import CardCatalog.Number.Written

/-!
Rounding floats to hundredths: as text, where the exact value is rounded and a half goes to the
even neighbour, and as a float, where a half goes away from zero.
-/

set_option autoImplicit false

namespace CardCatalog.Number

/-- The whole number nearest to `num / den`; a half goes to the even one. -/
def roundHalfEven (num den : Nat) : Nat :=
  let below := num / den
  let twice := 2 * (num % den)
  if twice < den then below
  else if den < twice then below + 1
  else if below % 2 = 0 then below else below + 1

/-- The whole number nearest to `num / den`; a half goes up. -/
def roundHalfUp (num den : Nat) : Nat :=
  (2 * num + den) / (2 * den)

/-- The float with two digits after the point, the exact value rounded. -/
def hundredthsText (x : Float) : String :=
  match view x with
  | .nan => "NaN"
  | .infinite negative => String.ofList (signed negative ['i', 'n', 'f'])
  | .finite negative significand exponent =>
    let cents := roundHalfEven (100 * significand * Nat.pow 2 exponent.toNat)
      (Nat.pow 2 (-exponent).toNat)
    let digits := decimalDigits cents
    let padded := zeros (3 - digits.length) ++ digits
    String.ofList (signed negative
      (padded.take (padded.length - 2) ++ '.' :: padded.drop (padded.length - 2)))

/-- The float nearest to a decimal number. One with more than 400 places before its point is
greater than every float, and one with more than 400 zeros after it rounds to zero. -/
def Decimal.toFloat (d : Decimal) : Float :=
  let places : Int := (decimalDigits d.digits).length + d.exponent
  if d.digits = 0 || places < -400 then 0
  else if 400 < places then 1.0 / 0.0
  else if 0 ≤ d.exponent then Float.ofScientific d.digits false d.exponent.toNat
  else Float.ofScientific d.digits true (-d.exponent).toNat

/-- The float nearest to the number of hundredths nearest to `x`. A float without a fraction is
left as it is. -/
def roundToHundredths (x : Float) : Float :=
  match view x with
  | .finite negative significand exponent =>
    if 0 ≤ exponent then x
    else
      let cents := roundHalfUp (100 * significand) (Nat.pow 2 (-exponent).toNat)
      let rounded := Decimal.toFloat ⟨cents, -2⟩
      if negative then -rounded else rounded
  | _ => x

end CardCatalog.Number
