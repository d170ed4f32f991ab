import CardCatalog.Mana
import CardCatalog.NameList
import CardCatalog.Number.Written
import CardCatalog.Query.Term
import CardCatalog.Text.Utf8

/-!
The functions that conditions call by name. Their arguments are stored values of any kind: where
a text is expected every other value is written as one, and where an index is expected every
other value is read as one.
-/

set_option autoImplicit false

namespace CardCatalog.Store

inductive Cell where
  | null
  | int (n : Int)
  | real (x : Float)
  | text (s : String)
  | blob (bytes : List Nat)

namespace Cell

def asText : Cell → Option String
  | null => none
  | int n => some (toString n)
  | real x => some (Number.plainText x)
  | text s => some s
  | blob bytes => some (String.ofList (Text.decodeUtf8 bytes))

/-- The nearest integer towards zero that fits in 64 bits. -/
def truncated (x : Float) : Int :=
  match Number.view x with
  | .nan => 0
  | .infinite negative => if negative then -(Nat.pow 2 63 : Int) else Nat.pow 2 63 - 1
  | .finite negative significand exponent =>
    let n : Nat := significand * Nat.pow 2 exponent.toNat / Nat.pow 2 (-exponent).toNat
    if negative then max (-(Nat.pow 2 63 : Int)) (-(n : Int)) else min (Nat.pow 2 63 - 1) n

def asIndex : Cell → Int
  | int n => n
  | real x => truncated x
  | text s => (Query.readInt? (Text.trim s)).getD 0
  | null | blob _ => 0

def ofBool (b : Bool) : Cell :=
  int (if b then 1 else 0)

def ofFloat (x : Float) : Cell :=
  if Number.isNaN x then null else real x

def ofText? : Option String → Cell
  | some s => text s
  | none => null

end Cell

/-- Calls a function by name; `none` when there is no such function of so many arguments. -/
def call? (name : String) (arguments : List Cell) : Option Cell :=
  match name, arguments with
  | "csv_in", [a, b] => some (.ofBool (NameList.holds a.asText b.asText))
  | "csv_element", [a, i] => some (.ofText? (NameList.get? a.asText i.asIndex))
  | "csv_len", [a] => some (.int (NameList.tagCount a.asText))
  | "csv_set_contains", [a, b] => some (.ofBool (NameList.includes a.asText b.asText))
  | "facename_element", [a, i] => some (.ofText? (NameList.face? a.asText i.asIndex))
  | "manacost_to_cmc", [a] => some (.int (Mana.total a.asText))
  | "manacost_contains", [a, b] => some (.ofBool (Mana.contains a.asText b.asText))
  | _, _ => none

end CardCatalog.Store
