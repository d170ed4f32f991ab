import CardCatalog.Database.Bytes
import CardCatalog.Store.Function

/-!
Records of a database file: first the kinds of all values, then their bytes.
-/

set_option autoImplicit false

namespace CardCatalog.Database

open Store (Cell)

/-- How many bytes a value of a kind takes. -/
def kindSize (kind : Nat) : Nat :=
  if kind ≤ 4 then kind
  else if kind = 5 then 6
  else if kind ≤ 7 then 8
  else if kind < 12 then 0
  else (kind - 12) / 2

def byteList (bytes : ByteArray) (i count : Nat) : List Nat :=
  (bytes.extract i (i + count)).toList.map UInt8.toNat

def cellAt (bytes : ByteArray) (kind i : Nat) : Cell :=
  if kind = 0 ∨ kind = 10 ∨ kind = 11 then .null
  else if kind ≤ 6 then .int (signed bytes i (kindSize kind))
  else if kind = 7 then .ofFloat (Float.ofBits (UInt64.ofNat (unsigned bytes i 8)))
  else if kind = 8 then .int 0
  else if kind = 9 then .int 1
  else
    let content := byteList bytes i (kindSize kind)
    if kind % 2 = 0 then .blob content else .text (String.ofList (Text.decodeUtf8 content))

def kindsFrom (bytes : ByteArray) (stop i : Nat) : List Nat :=
  if i < stop then
    have := lt_snd_varying bytes i
    (varying bytes i).1 :: kindsFrom bytes stop (varying bytes i).2
  else []
termination_by stop - i

def cellsFrom (bytes : ByteArray) (i : Nat) : List Nat → List Cell
  | [] => []
  | kind :: kinds => cellAt bytes kind i :: cellsFrom bytes (i + kindSize kind) kinds

def recordCells (bytes : ByteArray) : List Cell :=
  let (headerSize, start) := varying bytes 0
  let stop := min headerSize bytes.size
  cellsFrom bytes headerSize (kindsFrom bytes stop start)

end CardCatalog.Database
