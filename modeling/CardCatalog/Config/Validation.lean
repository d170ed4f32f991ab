import CardCatalog.Config.Basic
import CardCatalog.Number.Written
import CardCatalog.Text.Blank

/-!
Settings that make no sense, and the errors of settings.
-/

set_option autoImplicit false

namespace CardCatalog

inductive ConfigFault where
  /-- A rate that is no positive number. -/
  | badRate (rate : Float)
  | emptyCurrency
  | emptyDatabasePath

def ConfigFault.message : ConfigFault → String
  | badRate rate =>
    "display.usd_to_currency_rate must be a positive number, got " ++ Number.plainText rate
  | emptyCurrency => "display.currency cannot be empty"
  | emptyDatabasePath => "database.path cannot be empty"

inductive ConfigError where
  | fileNotFound (path : String)
  | unreadable
  | invalid (fault : ConfigFault)

def ConfigError.message : ConfigError → String
  | fileNotFound path => "Configuration file not found: " ++ path
  | unreadable => "Failed to parse configuration"
  | invalid fault => "Configuration validation failed: " ++ fault.message

def isPositive (x : Float) : Bool :=
  Number.isFinite x && 0 < Number.orderKey x

/-- The first fault of the settings. -/
def Config.fault? (c : Config) : Option ConfigFault :=
  if !isPositive c.display.rate then some (.badRate c.display.rate)
  else if Text.trim c.display.currency = "" then some .emptyCurrency
  else if c.databasePath = "" then some .emptyDatabasePath
  else none

def Config.validate (c : Config) : Except ConfigError Unit :=
  match c.fault? with
  | some fault => .error (.invalid fault)
  | none => .ok ()

end CardCatalog
