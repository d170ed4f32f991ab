import CardCatalog.Number.Written

/-!
JSON values, as cards are stored and printed in: an object is its list of fields in the order in
which they are written.
-/

set_option autoImplicit false

namespace CardCatalog

inductive JsonValue where
  | null
  | bool (b : Bool)
  | number (x : Float)
  | string (s : String)
  | array (items : List JsonValue)
  | object (fields : List (String × JsonValue))
  deriving Inhabited

namespace JsonValue

def get? (name : String) : JsonValue → Option JsonValue
  | object fields => fields.lookup name
  | _ => none

theorem sizeOf_lt_of_lookup {name : String} {fields : List (String × JsonValue)} {j : JsonValue}
    (h : fields.lookup name = some j) : sizeOf j < sizeOf fields := by
  induction fields with
  | nil => simp at h
  | cons field rest ih =>
    obtain ⟨key, value⟩ := field
    rw [List.lookup_cons] at h
    split at h
    · cases h
      simp
      omega
    · have := ih h
      simp
      omega

theorem sizeOf_lt_of_get? {name : String} {j k : JsonValue} (h : j.get? name = some k) :
    sizeOf k < sizeOf j := by
  cases j with
  | object fields =>
    have := sizeOf_lt_of_lookup h
    simp
    omega
  | _ => simp [get?] at h

def asString? : JsonValue → Option String
  | string s => some s
  | _ => none

def asNumber? : JsonValue → Option Float
  | number x => some x
  | _ => none

def asBool? : JsonValue → Option Bool
  | bool b => some b
  | _ => none

/-- A list whose items are all of one kind. -/
def asList? {α : Type} (read : JsonValue → Option α) : JsonValue → Option (List α)
  | array items => items.mapM read
  | _ => none

/-- A field that must be there. -/
def required {α : Type} (j : JsonValue) (name : String) (read : JsonValue → Option α) : Option α :=
  (j.get? name).bind read

/-- A field that may be missing or null. -/
def optional {α : Type} (j : JsonValue) (name : String) (read : JsonValue → Option α) :
    Option (Option α) :=
  match j.get? name with
  | none | some null => some none
  | some v => (read v).map some

/-- A field with a default; it may be missing but not null. -/
def withDefault {α : Type} (j : JsonValue) (name : String) (default : α)
    (read : JsonValue → Option α) : Option α :=
  match j.get? name with
  | none => some default
  | some v => read v

def ofStrings (items : List String) : JsonValue :=
  array (items.map string)

/-- A field that is written only when there is a value. -/
def someField {α : Type} (name : String) (write : α → JsonValue) :
    Option α → List (String × JsonValue)
  | some a => [(name, write a)]
  | none => []

/-- A list that is written only when it is not empty. -/
def listField (name : String) : List JsonValue → List (String × JsonValue)
  | [] => []
  | items => [(name, array items)]

end JsonValue

end CardCatalog
