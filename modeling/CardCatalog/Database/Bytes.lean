/-!
Numbers in the bytes of a database file. Every number has its most significant byte first; bytes
outside the file read as zero.
-/

set_option autoImplicit false

namespace CardCatalog.Database

def byte (bytes : ByteArray) (i : Nat) : Nat :=
  match bytes[i]? with
  | some b => b.toNat
  | none => 0

/-- The number in `count` bytes from `i` on. -/
def unsigned (bytes : ByteArray) (i : Nat) : (count : Nat) → Nat
  | 0 => 0
  | count + 1 => unsigned bytes i count * 256 + byte bytes (i + count)

/-- The number in `count` bytes from `i` on, in two's complement. -/
def signed (bytes : ByteArray) (i count : Nat) : Int :=
  let n := unsigned bytes i count
  if 2 * n < Nat.pow 256 count then n else n - (Nat.pow 256 count : Int)

/-- Reads a number of varying length, of which `left` bytes may still announce another one. -/
def varyingFrom (bytes : ByteArray) : (left i n : Nat) → Nat × Nat
  | 0, i, n => (n * 256 + byte bytes i, i + 1)
  | left + 1, i, n =>
    let b := byte bytes i
    if b < 128 then (n * 128 + b, i + 1)
    else varyingFrom bytes left (i + 1) (n * 128 + (b - 128))

/-- A number of one to nine bytes, and where the bytes after it begin. Each of the first eight
bytes holds seven bits and says whether another byte follows. -/
def varying (bytes : ByteArray) (i : Nat) : Nat × Nat :=
  varyingFrom bytes 8 i 0

theorem lt_snd_varyingFrom (bytes : ByteArray) (left i n : Nat) :
    i < (varyingFrom bytes left i n).2 := by
  induction left generalizing i n with
  | zero => simp [varyingFrom]
  | succ left ih =>
    simp only [varyingFrom]
    split
    · simp
    · exact Nat.lt_trans (Nat.lt_succ_self i) (ih _ _)

theorem lt_snd_varying (bytes : ByteArray) (i : Nat) : i < (varying bytes i).2 :=
  lt_snd_varyingFrom bytes 8 i 0

end CardCatalog.Database
