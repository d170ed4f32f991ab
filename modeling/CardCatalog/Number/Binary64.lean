/-!
Floats as exact numbers. A finite float is a whole number times a power of two; on floats that
are numbers, the order is the order of an integer key, so that comparing, sorting and taking
minima are questions about integers.
-/

set_option autoImplicit false

namespace CardCatalog.Number

/-- What a float stands for: a finite one is `significand * 2 ^ exponent` with its sign. -/
inductive View where
  | nan
  | infinite (negative : Bool)
  | finite (negative : Bool) (significand : Nat) (exponent : Int)
  deriving DecidableEq, Repr

def view (x : Float) : View :=
  let bits := x.toBits.toNat
  let negative : Bool := Nat.pow 2 63 ≤ bits
  let scale : Nat := bits / Nat.pow 2 52 % Nat.pow 2 11
  let fraction : Nat := bits % Nat.pow 2 52
  if scale = Nat.pow 2 11 - 1 then
    if fraction = 0 then .infinite negative else .nan
  else if scale = 0 then .finite negative fraction (-1074)
  else .finite negative (fraction + Nat.pow 2 52) ((scale : Int) - 1075)

def isNaN (x : Float) : Bool :=
  view x = .nan

def isFinite (x : Float) : Bool :=
  match view x with
  | .finite .. => true
  | _ => false

/-- The place of a float in the order of floats; both zeros have one place. -/
def orderKey (x : Float) : Int :=
  let bits := x.toBits.toNat
  if Nat.pow 2 63 ≤ bits then -((bits - Nat.pow 2 63 : Nat) : Int) else bits

def order (x y : Float) : Ordering :=
  compare (orderKey x) (orderKey y)

/-- The exact order of a float and an integer; `none` when the float is not a number. -/
def orderInt (x : Float) (n : Int) : Option Ordering :=
  match view x with
  | .nan => none
  | .infinite negative => some (if negative then .lt else .gt)
  | .finite negative significand exponent =>
    let m : Int := if negative then -significand else significand
    if 0 ≤ exponent then some (compare (m * (Nat.pow 2 exponent.toNat : Int)) n)
    else some (compare m (n * (Nat.pow 2 (-exponent).toNat : Int)))

end CardCatalog.Number
