import CardCatalog.Toml.Value

/-!
Tables while a document is read. A table is opened by its own header, implied by the header of a
table inside it, or made by a key with dots; a header opens a table once at most, and a key never
goes into a table that a header opened or that was written as one value.
-/

set_option autoImplicit false

namespace CardCatalog.Toml

inductive Origin where
  | opened
  | implied
  | dotted
  deriving DecidableEq

inductive Item where
  | value (v : Value)
  | table (origin : Origin) (fields : List (String × Item))
  /-- Tables under one repeated header. -/
  | tables (items : List (List (String × Item)))

abbrev Fields := List (String × Item)

namespace Item

mutual

def toValue : Item → Value
  | value v => v
  | table _ fields => .table (fieldsToValues fields)
  | tables items => .array (tablesToValues items)

def fieldsToValues : Fields → List (String × Value)
  | [] => []
  | (name, item) :: rest => (name, item.toValue) :: fieldsToValues rest

def tablesToValues : List Fields → List Value
  | [] => []
  | fields :: rest => .table (fieldsToValues fields) :: tablesToValues rest

end

end Item

/-- Changes the table of a path, which leads into the last of several tables under one header.
What the path lacks is implied by it. -/
def changeAt (f : Fields → Option Fields) : List String → Fields → Option Fields
  | [], fields => f fields
  | name :: path, fields =>
    match fields.lookup name with
    | none => do return putField name (.table .implied (← changeAt f path [])) fields
    | some (.table origin inner) => do
      return putField name (.table origin (← changeAt f path inner)) fields
    | some (.tables items) =>
      match items.reverse with
      | last :: before => do
        return putField name (.tables (before.reverse ++ [← changeAt f path last])) fields
      | [] => none
    | some (.value _) => none

/-- Opens the table of a header, which may have been implied but not opened. -/
def openTable (name : String) (fields : Fields) : Option Fields :=
  match fields.lookup name with
  | none => some (putField name (.table .opened []) fields)
  | some (.table .implied inner) => some (putField name (.table .opened inner) fields)
  | some _ => none

def openAnother (name : String) (fields : Fields) : Option Fields :=
  match fields.lookup name with
  | none => some (putField name (.tables [[]]) fields)
  | some (.tables items) => some (putField name (.tables (items ++ [[]])) fields)
  | some _ => none

/-- Gives a key its value, which it must not have yet. The table that the dots of a key lead to
must be one that keys with dots made; `fits` says whether the table `fields` is such a one. -/
def assign (v : Value) (name : String) (fits : Bool) : List String → Fields → Option Fields
  | [], fields =>
    if fits && (fields.lookup name).isNone then some (putField name (.value v) fields) else none
  | step :: path, fields =>
    match fields.lookup step with
    | none => do return putField step (.table .dotted (← assign v name true path [])) fields
    -- A header opened the table, so no key with dots may go into it.
    | some (.table .opened _) => none
    | some (.table origin inner) => do
      let inner ← assign v name (origin = .dotted) path inner
      return putField step (.table origin inner) fields
    | some (.tables items) =>
      match items.reverse with
      | last :: before => do
        return putField step (.tables (before.reverse ++ [← assign v name false path last])) fields
      | [] => none
    | some (.value _) => none

def assignKey (key : List String) (v : Value) (fields : Fields) : Option Fields :=
  match key.reverse with
  | name :: path => assign v name true path.reverse fields
  | [] => none

end CardCatalog.Toml
