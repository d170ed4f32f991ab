/-!
Values of settings documents. Layers of settings are merged: a table is merged with a table name
by name, and every other value takes the place of what was there.
-/

set_option autoImplicit false

namespace CardCatalog.Toml

inductive Value where
  | string (s : String)
  | integer (n : Int)
  | float (x : Float)
  | bool (b : Bool)
  /-- A date, a time or both. No setting is one, so what it says is not kept. -/
  | time
  | array (items : List Value)
  | table (fields : List (String × Value))
  deriving Inhabited

/-- Gives a name its value, in its old place if it has one. -/
def putField {α : Type} (name : String) (a : α) : List (String × α) → List (String × α)
  | [] => [(name, a)]
  | (key, b) :: rest => if key = name then (name, a) :: rest else (key, b) :: putField name a rest

theorem lookup_cons {α : Type} (name key : String) (a : α) (rest : List (String × α)) :
    ((name, a) :: rest).lookup key = if key = name then some a else rest.lookup key := by
  by_cases h : key = name
  · simp [h]
  · have : (key == name) = false := by simpa using h
    simp [List.lookup_cons, h, this]

/-- A name has the value that it was given last. -/
theorem lookup_putField {α : Type} (name key : String) (a : α) (fields : List (String × α)) :
    (putField name a fields).lookup key = if key = name then some a else fields.lookup key := by
  induction fields with
  | nil => simp [putField, lookup_cons]
  | cons field rest ih =>
    obtain ⟨other, b⟩ := field
    by_cases h : other = name <;> simp only [putField, h, if_true, if_false, lookup_cons, ih]
    · split <;> rfl
    · split <;> split <;> simp_all

namespace Value

mutual

/-- The value when `new` is laid over `old`. -/
def merge (old : Value) (new : Value) : Value :=
  match new, old with
  | table fields, table known => table (mergeFields known fields)
  | new, _ => new

def mergeFields (known : List (String × Value)) : List (String × Value) → List (String × Value)
  | [] => known
  | (name, new) :: rest =>
    let merged := match known.lookup name with
      | some old => merge old new
      | none => new
    mergeFields (putField name merged known) rest

end

end Value

end CardCatalog.Toml
