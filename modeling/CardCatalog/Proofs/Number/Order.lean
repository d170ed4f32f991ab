import Mathlib
import CardCatalog.Number.Binary64

/-!
The order of keys is the order of floats. Main statement: of two floats that are numbers, one is
at most the other exactly when it is in the order of their keys.
-/

set_option autoImplicit false

namespace CardCatalog.Number

open Float.Model

/-! ## Places of floats -/

def withSign : UnpackedFloat.Sign → Int → Int
  | .positive, n => n
  | .negative, n => -n

@[simp]
theorem withSign_zero (s : UnpackedFloat.Sign) : withSign s 0 = 0 := by
  cases s <;> rfl

/-- The place of a float among all: floats are counted by their exponents and, of one exponent, by
their significands. Only the least exponent has significands without a leading one. -/
inductive PlacedAt : UnpackedFloat → Int → Prop where
  | infinity (s : UnpackedFloat.Sign) : PlacedAt (.infinity s) (withSign s (2047 * 2 ^ 52))
  | zero (s : UnpackedFloat.Sign) : PlacedAt (.zero s) 0
  | finite (s : UnpackedFloat.Sign) {m : Nat} {e : Int} (positive : 0 < m) (below : m < 2 ^ 53)
      (least : -1074 ≤ e) (greatest : e ≤ 971) (leading : 2 ^ 52 ≤ m ∨ e = -1074) :
    PlacedAt (.finite s m e positive) (withSign s ((e + 1074) * 2 ^ 52 + m))

theorem isLE_then_compare (e f : Int) (m n : Nat) :
    ((compare e f).then (compare m n)).isLE = true ↔ e < f ∨ e = f ∧ m ≤ n := by
  rcases lt_trichotomy e f with less | rfl | greater
  next => simp [compare_lt_iff_lt.2 less, less]
  next => simp [Std.isLE_compare]
  next => simp [compare_gt_iff_gt.2 greater, greater.not_gt, greater.ne']

theorem swap_then_compare (e f : Int) (m n : Nat) :
    ((compare e f).then (compare m n)).swap = (compare f e).then (compare n m) := by
  rw [Ordering.swap_then, ← Std.OrientedCmp.eq_swap, ← Std.OrientedCmp.eq_swap]

theorem PlacedAt.le_iff {u v : UnpackedFloat} {i k : Int} (first : PlacedAt u i)
    (second : PlacedAt v k) : u.le v = true ↔ i ≤ k := by
  unfold UnpackedFloat.le
  cases first with
  | infinity s =>
    cases second with
    | infinity t => cases s <;> cases t <;> simp [UnpackedFloat.compare, withSign] <;> decide
    | zero t => cases s <;> simp [UnpackedFloat.compare, withSign]
    | finite t => cases s <;> cases t <;> simp [UnpackedFloat.compare, withSign] <;> omega
  | zero s =>
    cases second with
    | infinity t => cases t <;> simp [UnpackedFloat.compare, withSign]
    | zero t => simp [UnpackedFloat.compare]
    | finite t => cases t <;> simp [UnpackedFloat.compare, withSign] <;> omega
  | finite s =>
    cases second with
    | infinity t => cases s <;> cases t <;> simp [UnpackedFloat.compare, withSign] <;> omega
    | zero t => cases s <;> simp [UnpackedFloat.compare, withSign] <;> omega
    | finite t =>
      cases s <;> cases t <;>
        simp only [UnpackedFloat.compare, withSign, swap_then_compare, isLE_then_compare,
          Option.any_some] <;>
        simp <;> omega

/-! ## The fields of a float -/

def sign (x : Float) : UnpackedFloat.Sign :=
  if 2 ^ 63 ≤ x.toBits.toNat then .negative else .positive

def scale (x : Float) : Nat :=
  x.toBits.toNat / 2 ^ 52 % 2 ^ 11

def fraction (x : Float) : Nat :=
  x.toBits.toNat % 2 ^ 52

theorem toNat_unpackExponent (x : Float) :
    (@UnpackedFloat.unpackExponent .binary64 x.toModel.toBits.toBitVec).toNat = scale x := by
  rw [UnpackedFloat.unpackExponent_def, BitVec.extractLsb'_toNat, Nat.shiftRight_eq_div_pow]
  rfl

theorem toNat_unpackMantissa (x : Float) :
    (@UnpackedFloat.unpackMantissa .binary64 x.toModel.toBits.toBitVec).toNat = fraction x := by
  rw [UnpackedFloat.unpackMantissa_def, BitVec.extractLsb'_toNat, Nat.shiftRight_zero]
  rfl

theorem ofBitVec_unpackSign (x : Float) : UnpackedFloat.Sign.ofBitVec
    (@UnpackedFloat.unpackSign .binary64 x.toModel.toBits.toBitVec) = sign x := by
  have few := x.toBits.toNat_lt
  have bit : (@UnpackedFloat.unpackSign .binary64 x.toModel.toBits.toBitVec).toNat =
      x.toBits.toNat / 2 ^ 63 % 2 ^ 1 := by
    rw [UnpackedFloat.unpackSign_def, BitVec.extractLsb'_toNat, Nat.shiftRight_eq_div_pow]
    rfl
  have zero : @UnpackedFloat.unpackSign .binary64 x.toModel.toBits.toBitVec = 0#1 ↔
      ¬ 2 ^ 63 ≤ x.toBits.toNat := by
    rw [← BitVec.toNat_inj, bit, BitVec.toNat_ofNat]
    omega
  simp only [UnpackedFloat.Sign.ofBitVec, sign, zero, ite_not]

theorem isNaN_of_fields {x : Float} (greatest : scale x = 2047) (nonzero : fraction x ≠ 0) :
    isNaN x = true := by
  have top : x.toBits.toNat / Nat.pow 2 52 % Nat.pow 2 11 = Nat.pow 2 11 - 1 := greatest
  have rest : ¬ x.toBits.toNat % Nat.pow 2 52 = 0 := nonzero
  simp only [isNaN, view, top, rest, if_true, if_false, decide_true]

theorem orderKey_eq (x : Float) :
    orderKey x = withSign (sign x) (scale x * 2 ^ 52 + fraction x) := by
  have few := x.toBits.toNat_lt
  have top : Nat.pow 2 63 = 2 ^ 63 := rfl
  unfold orderKey sign scale fraction
  simp only [top]
  split <;> simp only [withSign] <;> omega

theorem placedAt_orderKey {x : Float} (number : isNaN x = false) :
    PlacedAt x.toModel.unpack (orderKey x) := by
  have scales : scale x < 2 ^ 11 := Nat.mod_lt _ (by decide)
  have fractions : fraction x < 2 ^ 52 := Nat.mod_lt _ (by decide)
  have ones : (-1#11).toNat = 2047 := rfl
  have bias : (Format.binary64.exponentBias : Int) = 1023 := rfl
  have leading : 1 <<< 52 ||| fraction x = 2 ^ 52 + fraction x :=
    (Nat.two_pow_add_eq_or_of_lt fractions 1).symm
  rw [orderKey_eq]
  unfold Float.Model.unpack UnpackedFloat.unpack
  simp only [ofBitVec_unpackSign, ← BitVec.toNat_inj, toNat_unpackExponent, toNat_unpackMantissa,
    BitVec.toNat_append, ones, BitVec.toNat_ofNat, Nat.zero_mod, Nat.one_mod, leading]
  split
  next greatest =>
    split
    next zero =>
      rw [greatest, zero]
      exact PlacedAt.infinity (sign x)
    next nonzero => simp [isNaN_of_fields greatest nonzero] at number
  next below =>
    split
    next least =>
      split
      next zero => simpa [least, zero] using PlacedAt.zero (sign x)
      next nonzero =>
        have placed := PlacedAt.finite (sign x) (m := fraction x) (e := -1074) (by omega)
          (by omega) (by omega) (by omega) (.inr rfl)
        simpa [least, bias] using placed
    next normal =>
      have placed := PlacedAt.finite (sign x) (m := 2 ^ 52 + fraction x) (e := scale x - 1075)
        (by omega) (by omega) (by omega) (by omega) (.inl (by omega))
      have key : (scale x - 1075 + 1074) * 2 ^ 52 + ((2 ^ 52 + fraction x : Nat) : Int) =
          scale x * 2 ^ 52 + fraction x := by
        push_cast
        ring
      rw [key] at placed
      simpa [bias] using placed

theorem isLE_order_iff {x y : Float} (first : isNaN x = false) (second : isNaN y = false) :
    (order x y).isLE = true ↔ x ≤ y := by
  have unpacked : x ≤ y ↔ x.toModel.unpack.le y.toModel.unpack = true := decide_eq_true_iff
  rw [unpacked, (placedAt_orderKey first).le_iff (placedAt_orderKey second)]
  exact Std.isLE_compare

end CardCatalog.Number
