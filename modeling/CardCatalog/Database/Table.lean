import CardCatalog.Database.Record
import CardCatalog.Database.Tree

/-!
Tables by name. The first table of a file lists all others, each with its first page and with the
statement that created it, which names its columns.
-/

set_option autoImplicit false

namespace CardCatalog.Database

open Store (Cell)

/-- Splits at the commas that stand outside parentheses; `depth` of them are open. -/
def splitColumns (depth : Nat) : List Char → List (List Char)
  | [] => [[]]
  | c :: rest =>
    if c = ',' && depth = 0 then [] :: splitColumns depth rest
    else
      let depth := if c = '(' then depth + 1 else if c = ')' then depth - 1 else depth
      match splitColumns depth rest with
      | part :: parts => (c :: part) :: parts
      | [] => [[c]]

/-- A name without quotes of any kind, in lower case. -/
def bareName (word : List Char) : String :=
  Text.fold (String.ofList (word.filter fun c => !"\"'`[]".toList.contains c))

def conditionWords : List String :=
  ["constraint", "primary", "unique", "check", "foreign"]

def columnNames (statement : String) : List String :=
  let inner := (statement.toList.dropWhile (· ≠ '(')).drop 1
  let inner := (inner.reverse.dropWhile (· ≠ ')')).drop 1
  ((splitColumns 0 inner.reverse).filterMap fun column =>
    (Text.words column).head?.map bareName).filter fun name => !conditionWords.contains name

/-- The values of a row by the names of their columns. -/
abbrev Row := List (String × Cell)

namespace Row

def cell (r : Row) (column : String) : Cell :=
  (r.lookup column).getD .null

def text? (r : Row) (column : String) : Option String :=
  (r.cell column).asText

def text (r : Row) (column : String) : String :=
  (r.text? column).getD ""

def number? (r : Row) (column : String) : Option Float :=
  match r.cell column with
  | .int n => some (Float.ofInt n)
  | .real x => some x
  | _ => none

end Row

/-- The rows of a table; a table that is not there has none. -/
def File.table (f : File) (name : String) : List Row :=
  let entries := (f.records 1).map recordCells
  let rowsOf : List Cell → Option (List Row)
    | [kind, own, _, .int root, statement] =>
      if kind.asText = some "table" && (own.asText.map Text.fold) = some name then
        let columns := columnNames (statement.asText.getD "")
        some ((f.records root.toNat).map fun record => columns.zip (recordCells record))
      else none
    | _ => none
  (entries.findSome? rowsOf).getD []

end CardCatalog.Database
