import CardCatalog.Json.Pretty
import CardCatalog.Toml.Value

/-!
What a JSON document holds of a value, and how the fields of an object are read back. Main
statements: a value and what a document holds of it have the same text; and a field that may be
left out is read back as it was written.
-/

set_option autoImplicit false

namespace CardCatalog.JsonValue

/-! ## Values in a document -/

mutual

/-- What a document holds of a value: in place of a number that is not finite it holds none. -/
def written : JsonValue → JsonValue
  | null => null
  | bool b => bool b
  | number x => if Number.isFinite x then number x else null
  | string s => string s
  | array items => array (writtenItems items)
  | object fields => object (writtenFields fields)

def writtenItems : List JsonValue → List JsonValue
  | [] => []
  | item :: rest => item.written :: writtenItems rest

def writtenFields : List (String × JsonValue) → List (String × JsonValue)
  | [] => []
  | (name, value) :: rest => (name, value.written) :: writtenFields rest

end

theorem numberText_of_infinite {x : Float} (infinite : ¬ Number.isFinite x = true) :
    numberText x = "null" := by
  have noText : Number.dataText? x = none := by
    cases view : Number.view x with
    | finite =>
      rw [Number.isFinite, view] at infinite
      exact absurd rfl infinite
    | nan | infinite => rw [Number.dataText?, view]
  rw [numberText, noText, Option.getD_none]

mutual

/-- The text of a value is that of what the document holds. -/
theorem prettyAt_written (level : Nat) :
    (j : JsonValue) → prettyAt level j.written = prettyAt level j
  | null | bool _ | string _ => rfl
  | number x => by
    rw [written]
    split
    next => rfl
    next infinite => rw [prettyAt, prettyAt, numberText_of_infinite infinite]
  | array items => by rw [written, prettyAt, prettyAt, prettyItems_written]
  | object fields => by rw [written, prettyAt, prettyAt, prettyFields_written]

theorem prettyItems_written (level : Nat) :
    (items : List JsonValue) → prettyItems level (writtenItems items) = prettyItems level items
  | [] => rfl
  | item :: rest => by
    rw [writtenItems, prettyItems, prettyItems, prettyAt_written, prettyItems_written]

theorem prettyFields_written (level : Nat) : (fields : List (String × JsonValue)) →
    prettyFields level (writtenFields fields) = prettyFields level fields
  | [] => rfl
  | (name, value) :: rest => by
    rw [writtenFields, prettyFields, prettyFields, prettyAt_written, prettyFields_written]

end

theorem writtenFields_append (fields more : List (String × JsonValue)) :
    writtenFields (fields ++ more) = writtenFields fields ++ writtenFields more := by
  induction fields with
  | nil => rfl
  | cons field rest ih => rw [List.cons_append, writtenFields, ih, writtenFields, List.cons_append]

theorem writtenItems_eq (items : List JsonValue) : writtenItems items = items.map written := by
  induction items with
  | nil => rfl
  | cons item rest ih => rw [writtenItems, ih, List.map_cons]

section

variable {α : Type} (write : α → JsonValue)

theorem writtenItems_map {items : List α} (same : ∀ a ∈ items, (write a).written = write a) :
    writtenItems (items.map write) = items.map write := by
  rw [writtenItems_eq, List.map_map]
  exact List.map_congr_left same

theorem writtenFields_someField (name : String) {value : Option α}
    (same : ∀ a ∈ value, (write a).written = write a) :
    writtenFields (someField name write value) = someField name write value := by
  cases value with
  | none => rfl
  | some a => rw [someField, writtenFields, writtenFields, same a rfl]

theorem writtenFields_listField (name : String) {items : List α}
    (same : ∀ a ∈ items, (write a).written = write a) :
    writtenFields (listField name (items.map write)) = listField name (items.map write) := by
  cases items with
  | nil => rfl
  | cons a rest => exact congrArg (fun items => [(name, array items)]) (writtenItems_map write same)

end

/-! ## Fields of an object -/

/-- What a field for a list holds if it is written. -/
def listValue? : List JsonValue → Option JsonValue
  | [] => none
  | items => some (array items)

section

variable {α : Type} {write : α → JsonValue} (name key : String)

@[simp]
theorem get?_object (fields : List (String × JsonValue)) :
    (object fields).get? name = fields.lookup name := rfl

@[simp]
theorem lookup_flag (b : Bool) (v : JsonValue) :
    (if b = true then [(name, v)] else []).lookup key =
      if key = name then (if b = true then some v else none) else none := by
  cases b <;> simp [Toml.lookup_cons]

@[simp]
theorem lookup_someField (value : Option α) :
    (someField name write value).lookup key = if key = name then value.map write else none := by
  cases value with
  | none => simp [someField]
  | some a => simp [someField, Toml.lookup_cons]

@[simp]
theorem lookup_listField (items : List JsonValue) :
    (listField name items).lookup key = if key = name then listValue? items else none := by
  cases items with
  | nil => simp [listField, listValue?]
  | cons item rest => simp [listField, listValue?, Toml.lookup_cons]

end

/-! ## Reading what was written -/

/-- What is read of a field that may be missing or null. -/
def optionalOf {α : Type} (read : JsonValue → Option α) : Option JsonValue → Option (Option α)
  | none | some null => some none
  | some v => (read v).map some

/-- What is read of a field with a default. -/
def defaultOf {α : Type} (default : α) (read : JsonValue → Option α) :
    Option JsonValue → Option α
  | none => some default
  | some v => read v

section

variable {α : Type} {write : α → JsonValue} {read : JsonValue → Option α}

theorem optional_eq (j : JsonValue) (name : String) :
    j.optional name read = optionalOf read (j.get? name) := rfl

theorem withDefault_eq (j : JsonValue) (name : String) (default : α) :
    j.withDefault name default read = defaultOf default read (j.get? name) := rfl

theorem mapM_read_map {items : List α} (reads : ∀ a ∈ items, read (write a) = some a) :
    (items.map write).mapM read = some items := by
  induction items with
  | nil => rfl
  | cons a rest ih =>
    rw [List.map_cons, List.mapM_cons, reads a List.mem_cons_self,
      ih fun b member => reads b (List.mem_cons_of_mem a member)]
    rfl

theorem asList?_map (reads : ∀ a, read (write a) = some a) (items : List α) :
    asList? read (array (items.map write)) = some items :=
  mapM_read_map fun a _ => reads a

theorem optionalOf_map (reads : ∀ a, read (write a) = some a) (given : ∀ a, write a ≠ null)
    (value : Option α) : optionalOf read (value.map write) = some value := by
  cases value with
  | none => rfl
  | some a =>
    unfold optionalOf
    split
    next absent => cases absent
    next missing => exact absurd (Option.some.inj missing) (given a)
    next v present =>
      cases present
      rw [reads, Option.map_some]

theorem defaultOf_list (reads : ∀ a, read (write a) = some a) (items : List α) :
    defaultOf [] (asList? read) (listValue? (items.map write)) = some items := by
  cases items with
  | nil => rfl
  | cons a rest => exact asList?_map reads (a :: rest)

end

@[simp]
theorem asString?_string (s : String) : asString? (string s) = some s := rfl

@[simp]
theorem asNumber?_number (x : Float) : asNumber? (number x) = some x := rfl

@[simp]
theorem defaultOf_flag (b : Bool) :
    defaultOf false asBool? (if b = true then some (bool true) else none) = some b := by
  cases b <;> rfl

theorem asList?_ofStrings (items : List String) :
    asList? asString? (ofStrings items) = some items :=
  asList?_map asString?_string items

end CardCatalog.JsonValue
