import CardCatalog.Config.Basic
import CardCatalog.Number.Rounding
import CardCatalog.Toml.Value

/-!
Settings read from a value. A section is a table of settings by name, or a list of them in order;
a setting that is not there has its default, unknown ones are passed over, and one of the wrong
kind cannot be read.
-/

set_option autoImplicit false

namespace CardCatalog

open Toml (Value)

/-- The settings of a section by name. A date or time has none. -/
def section? (names : List String) : Value → Option (List (String × Value))
  | .table fields => some fields
  | .array items => some (names.zip items)
  | .time => some []
  | _ => none

def setting {α : Type} (fields : List (String × Value)) (name : String) (default : α)
    (read : Value → Option α) : Option α :=
  match fields.lookup name with
  | none => some default
  | some v => read v

def asText? : Value → Option String
  | .string s => some s
  | _ => none

def asTexts? : Value → Option (List String)
  | .array items => items.mapM asText?
  | _ => none

/-- A float, or the float nearest to an integer. -/
def asFloat? : Value → Option Float
  | .float x => some x
  | .integer n =>
    let x := Number.Decimal.toFloat ⟨n.natAbs, 0⟩
    some (if n < 0 then -x else x)
  | _ => none

def DisplaySettings.ofValue? (v : Value) : Option DisplaySettings := do
  let usual : DisplaySettings := {}
  let fields ← section? ["currency", "usd_to_currency_rate", "default_format", "shown_formats"] v
  let currency ← setting fields "currency" usual.currency asText?
  let rate ← setting fields "usd_to_currency_rate" usual.rate asFloat?
  let defaultFormat ←
    setting fields "default_format" usual.defaultFormat fun v => (asText? v).map some
  let shownFormats ← setting fields "shown_formats" usual.shownFormats asTexts?
  return { currency, rate, defaultFormat, shownFormats }

namespace Config

def databasePath? (v : Value) : Option String := do
  setting (← section? ["path"] v) "path" ({} : Config).databasePath asText?

def ofValue? (v : Value) : Option Config := do
  let fields ← section? ["database", "display"] v
  let databasePath ← setting fields "database" ({} : Config).databasePath databasePath?
  let display ← setting fields "display" {} DisplaySettings.ofValue?
  return { databasePath, display }

end Config

end CardCatalog
