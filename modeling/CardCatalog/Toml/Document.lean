import CardCatalog.Toml.Number
import CardCatalog.Toml.Quoted
import CardCatalog.Toml.Table
import CardCatalog.Toml.Time

/-!
Settings documents in TOML: lines with a key and its value, under the headers of their tables.
-/

set_option autoImplicit false

namespace CardCatalog.Toml

open Reader

/-- Arrays and tables are nested less deep than this, and keys have fewer parts. -/
def nestingLimit : Nat := 80

def isKeyChar (c : Char) : Bool :=
  c.isAlphanum || c == '-' || c == '_'

def keyPart : Reader String := do
  match ← peek? with
  | some '"' => basicString
  | some '\'' => literalString
  | _ => String.ofList <$> run1 isKeyChar

/-- The parts of a key, at most `limit`, with dots between them. -/
def keyParts : (limit : Nat) → Reader (List String)
  | 0 => failure
  | limit + 1 => do
    gap
    let part ← keyPart
    gap
    if ← word? ['.'] then return part :: (← keyParts limit) else return [part]

def key : Reader (List String) :=
  keyParts (nestingLimit - 1)

mutual

/-- A value in which arrays and tables are nested at most `depth` deep. -/
def value (depth : Nat) : (fuel : Nat) → Reader Value
  | 0 => failure
  | fuel + 1 => do
    match ← peek? with
    | some '"' | some '\'' => .string <$> string
    | some '[' =>
      guard (depth ≠ 0)
      char '['
      .array <$> items (depth - 1) fuel
    | some '\x7b' =>
      guard (depth ≠ 0)
      char '\x7b'
      let fields ← do
        gap
        if ← word? ['\x7d'] then pure [] else pairs (depth - 1) [] fuel
      return (Item.table .opened fields).toValue
    | some 't' =>
      word ['t', 'r', 'u', 'e']
      return .bool true
    | some 'f' =>
      word ['f', 'a', 'l', 's', 'e']
      return .bool false
    | _ => time <|> number

/-- The items of an array, up to its end; a comma may stand after the last one. -/
def items (depth : Nat) : (fuel : Nat) → Reader (List Value)
  | 0 => failure
  | fuel + 1 => do
    space
    if ← word? [']'] then return []
    else
      let v ← value depth fuel
      space
      if ← word? [','] then return v :: (← items depth fuel)
      else
        char ']'
        return [v]

/-- The fields of a table that is written as one value, up to its end. -/
def pairs (depth : Nat) (fields : Fields) : (fuel : Nat) → Reader Fields
  | 0 => failure
  | fuel + 1 => do
    let k ← key
    char '='
    gap
    let v ← value depth fuel
    gap
    match assignKey k v fields with
    | none => failure
    | some fields =>
      if ← word? [','] then pairs depth fields fuel
      else
        char '\x7d'
        return fields

end

/-- The table that the lines go into, and all that was read. -/
structure Draft where
  path : List String := []
  fields : Fields := []

namespace Draft

def withHeader (d : Draft) (path : List String) (repeated : Bool) : Option Draft := do
  let name ← path.getLast?
  let open? := if repeated then openAnother name else openTable name
  let fields ← changeAt open? path.dropLast d.fields
  return ⟨path, fields⟩

def withPair (d : Draft) (k : List String) (v : Value) : Option Draft := do
  return { d with fields := ← changeAt (assignKey k v) d.path d.fields }

end Draft

def header (d : Draft) : Reader Draft := do
  char '['
  let repeated ← word? ['[']
  let path ← key
  char ']'
  if repeated then char ']'
  restOfLine
  match d.withHeader path repeated with
  | some d => return d
  | none => failure

def pair (d : Draft) : Reader Draft := do
  let k ← key
  char '='
  gap
  -- Every step of a value consumes a character or goes into one part of it.
  let v ← value (nestingLimit - 1) (2 * (← left) + 1)
  restOfLine
  match d.withPair k v with
  | some d => return d
  | none => failure

def documentLines : (fuel : Nat) → Draft → Reader Draft
  | 0, d => return d
  | fuel + 1, d => do
    gap
    match ← peek? with
    | none => return d
    | some '#' | some '\n' | some '\r' =>
      restOfLine
      documentLines fuel d
    | some '[' => do documentLines fuel (← header d)
    | some _ => do documentLines fuel (← pair d)

/-- The table that a document holds; a mark of the byte order may stand at its front. -/
def parse? (text : String) : Option Value :=
  let cs := match text.toList with
    | '\ufeff' :: rest => rest
    | all => all
  (Reader.whole (documentLines (cs.length + 1) {}) cs).map fun d =>
    (Item.table .opened d.fields).toValue

end CardCatalog.Toml
