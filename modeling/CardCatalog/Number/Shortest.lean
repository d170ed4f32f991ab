import CardCatalog.Number.Binary64

/-!
The fewest decimal digits that name a float: for one digit, two digits and so on the two
neighbours of the float on that decimal grid are tried, and the first grid with a number that
lies among those that round to the float is taken; of two such neighbours the nearer one.
-/

set_option autoImplicit false

namespace CardCatalog.Number

/-- The number `digits * 10 ^ exponent`. -/
structure Decimal where
  digits : Nat
  exponent : Int
  deriving DecidableEq, Repr

/-- Which neighbour is taken when the float lies half-way between the two. -/
inductive Tie where
  | up
  | even
  deriving DecidableEq, Repr

def decimalDigits (n : Nat) : List Char :=
  Nat.toDigits 10 n

/-- The place of the leading digit: the number `num / den` has that many digits before its point,
or a negative number of zeros after it. -/
def leadingPlace (num den : Nat) : Int :=
  let guess : Int := (decimalDigits num).length - (decimalDigits den).length
  let reaches : Bool :=
    if 0 ≤ guess then den * Nat.pow 10 guess.toNat ≤ num
    else den ≤ num * Nat.pow 10 (-guess).toNat
  if reaches then guess + 1 else guess

/-- The numbers that round to one float, over a common denominator: from `low` to `high` around
`value`, the two ends included when `closed`. -/
structure Interval where
  low : Nat
  value : Nat
  high : Nat
  closed : Bool

def Interval.holds (i : Interval) (n : Nat) : Bool :=
  if i.closed then i.low ≤ n && n ≤ i.high else i.low < n && n < i.high

/-- The neighbour of `value` among the multiples of `unit` that lies in the interval. -/
def Interval.onGrid? (i : Interval) (unit : Nat) (tie : Tie) : Option Nat :=
  let below := i.value / unit
  let up := below + 1
  let gapBelow := i.value - below * unit
  let gapAbove := up * unit - i.value
  match i.holds (below * unit), i.holds (up * unit) with
  | true, false => some below
  | false, true => some up
  | false, false => none
  | true, true =>
    if gapBelow < gapAbove then some below
    else if gapAbove < gapBelow then some up
    else match tie with
      | .up => some up
      | .even => some (if below % 2 = 0 then below else up)

/-- Tries `count` digits, then one more, as long as `fuel` lasts. -/
def searchDigits (i : Interval) (den : Nat) (place : Int) (tie : Tie) :
    (fuel count : Nat) → Decimal
  -- Seventeen digits always name the float, so this is not reached.
  | 0, count => ⟨i.value * Nat.pow 10 (count - place).toNat / den, place - count⟩
  | fuel + 1, count =>
    let exponent := place - count
    let scale := Nat.pow 10 (-exponent).toNat
    let unit := den * Nat.pow 10 exponent.toNat
    let scaled : Interval := ⟨i.low * scale, i.value * scale, i.high * scale, i.closed⟩
    match scaled.onGrid? unit tie with
    | some digits => ⟨digits, exponent⟩
    | none => searchDigits i den place tie fuel (count + 1)

/-- Drops zeros at the end of the digits, at most `fuel` of them. -/
def dropZeros : (fuel : Nat) → Decimal → Decimal
  | 0, d => d
  | fuel + 1, d =>
    if d.digits % 10 = 0 && d.digits != 0 then dropZeros fuel ⟨d.digits / 10, d.exponent + 1⟩
    else d

/-- The shortest decimal that rounds to `significand * 2 ^ exponent`. A float is followed by one
twice as far as the one before it when its significand is the least normal one. -/
def shortest (significand : Nat) (exponent : Int) (tie : Tie) : Decimal :=
  if significand = 0 then ⟨0, 0⟩
  else
    -- In quarters of the last place the half-way points are whole numbers.
    let lowGap := if significand = Nat.pow 2 52 && exponent != -1074 then 1 else 2
    let up := Nat.pow 2 (exponent - 2).toNat
    let den := Nat.pow 2 (2 - exponent).toNat
    let value := 4 * significand * up
    let interval : Interval :=
      ⟨value - lowGap * up, value, value + 2 * up, significand % 2 = 0⟩
    dropZeros 20 (searchDigits interval den (leadingPlace value den) tie 17 1)

end CardCatalog.Number
