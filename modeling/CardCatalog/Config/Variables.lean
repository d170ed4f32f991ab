import CardCatalog.Text.Ascii
import CardCatalog.Text.Blank
import CardCatalog.Toml.Number
import CardCatalog.Toml.Quoted

/-!
Settings given by variables of the environment. The name of such a variable has a fixed beginning
and then the names of the setting's section and of the setting, with two underscores between them,
all in any case. Its value is read as a truth value, a number, a list in brackets, a table in
braces or a quoted text if it has that form; every other value is a text.
-/

set_option autoImplicit false

namespace CardCatalog.Variables

open Toml Toml.Reader

def isAsciiBlank (c : Char) : Bool :=
  c == ' ' || c == '\t' || c == '\n' || c == '\x0c' || c == '\r'

/-- Characters of a bare value, which end before a comma or a bracket. -/
def isBare (c : Char) : Bool :=
  c != ',' && c != '\x7b' && c != '\x7d' && c != '[' && c != ']'

def blanks : Reader Unit :=
  discard (run isAsciiBlank)

/-- A number with a point, which has a digit on at least one side. -/
def pointed : Reader Value := do
  let negative ← minus?
  let whole ← run Char.isDigit
  char '.'
  let fraction ← run Char.isDigit
  guard (whole ≠ [] ∨ fraction ≠ [])
  let power ←
    if (← word? ['e']) || (← word? ['E']) then
      let negative ← minus?
      let n : Int := numberOf 10 (← run1 Char.isDigit)
      pure (if negative then -n else n)
    else pure 0
  let x := Number.Decimal.toFloat ⟨numberOf 10 (whole ++ fraction), power - fraction.length⟩
  return .float (if negative then -x else x)

/-- An integer of at most 64 bits. -/
def whole : Reader Value := do
  let negative ← minus?
  let n : Int := numberOf 10 (← run1 Char.isDigit)
  let n := if negative then -n else n
  guard (-(Nat.pow 2 63 : Int) ≤ n ∧ n < Nat.pow 2 64)
  return .integer n

/-- A bare value without the white space around it. -/
def ofBare (cs : List Char) : Value :=
  let cs := Text.trimChars cs
  ((Reader.whole pointed cs).orElse fun _ => Reader.whole whole cs).getD
    (.string (String.ofList cs))

def quotedChar : Reader Value := do
  char '\''
  let c ← one fun _ => true
  char '\''
  return .string (String.singleton c)

def fieldName : Reader String := do
  blanks
  let name ←
    if (← peek?) = some '"' then basicString
    else String.ofList <$> run1 fun c => c.isAlphanum || c == '_' || c == '-'
  blanks
  return name

mutual

def value : (fuel : Nat) → Reader Value
  | 0 => failure
  | fuel + 1 => do
    blanks
    let v ←
      if ← word? ['t', 'r', 'u', 'e'] then pure (.bool true)
      else if ← word? ['f', 'a', 'l', 's', 'e'] then pure (.bool false)
      else if ← word? ['['] then .array <$> items fuel
      else if ← word? ['\x7b'] then .table <$> fields [] fuel
      else match ← peek? with
        | some '"' => .string <$> basicString
        | some '\'' => quotedChar
        | _ => ofBare <$> run isBare
    blanks
    return v

/-- The items of a list, up to its end. -/
def items : (fuel : Nat) → Reader (List Value)
  | 0 => failure
  | fuel + 1 => do
    if ← word? [']'] then return []
    else
      let v ← value fuel
      if ← word? [']'] then return [v]
      else
        char ','
        return v :: (← items fuel)

/-- The fields of a table, up to its end; a name has the value that it is given last. -/
def fields (known : List (String × Value)) : (fuel : Nat) → Reader (List (String × Value))
  | 0 => failure
  | fuel + 1 => do
    if ← word? ['\x7d'] then return known
    else
      let name ← fieldName
      char '='
      let v ← value fuel
      let known := putField name v known
      if ← word? ['\x7d'] then return known
      else
        char ','
        fields known fuel

end

def valueOf (text : String) : Value :=
  let cs := text.toList
  (Reader.whole (value (2 * cs.length + 2)) cs).getD (.string text)

/-- What the names of all variables with settings begin with, in lower case. -/
def commonPrefix : List Char :=
  ['m', 't', 'g', 'c', 'a', 'r', 'd', '_']

/-- The parts of a name: two underscores stand between them, or a point. -/
def parts : List Char → List (List Char)
  | '_' :: '_' :: rest => [] :: parts rest
  | '.' :: rest => [] :: parts rest
  | c :: rest =>
    match parts rest with
    | part :: others => (c :: part) :: others
    | [] => [[c]]
  | [] => [[]]

/-- The section and setting that a variable names; `config` names the settings document and is no
setting. -/
def settingPath? (name : String) : Option (List String) :=
  let low := (Text.trimChars name.toList).map Char.toLower
  if commonPrefix.isPrefixOf low then
    let rest := low.drop commonPrefix.length
    let path := parts (Text.trimChars rest)
    if rest = ['c', 'o', 'n', 'f', 'i', 'g'] || path.contains [] then none
    else some (path.map String.ofList)
  else none

def nested (v : Value) : List String → Value
  | [] => v
  | name :: path => .table [(name, nested v path)]

/-- The settings that variables give, the later ones laid over the earlier ones. -/
def settings (bindings : List (String × String)) : Value :=
  bindings.foldl
    (fun known (name, text) =>
      match settingPath? name with
      | some path => known.merge (nested (valueOf text) path)
      | none => known)
    (.table [])

end CardCatalog.Variables
