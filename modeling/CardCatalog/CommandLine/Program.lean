import CardCatalog.CommandLine.Command
import CardCatalog.CommandLine.Parser
import CardCatalog.Config.Load

/-!
The whole program on what it finds around it: its arguments are read, then the settings, then the
catalogue, and the first thing that is wrong is reported.
-/

set_option autoImplicit false

namespace CardCatalog.CommandLine

inductive ProgramError where
  | settings (e : ConfigError)
  | validation (e : ConfigError)
  | catalogue (e : StoreError)
  | command (e : CommandError)

/-- What failed, and then why. -/
def ProgramError.message : ProgramError → String
  | settings e => "Failed to load configuration: " ++ e.message
  | validation e => "Configuration validation failed: " ++ e.message
  | catalogue e => "Failed to open card database: " ++ e.message
  | command e => e.message

/-- The catalogue at a path. An empty file is an empty catalogue. -/
def openCatalogue (around : Surroundings) (path : String) : Except StoreError Store :=
  match around.file? path with
  | none => .error (.databaseMissing path)
  | some .folder => .error (.cannotOpen path)
  | some (.text "") => .ok .empty
  | some (.catalogue s) => .ok s
  | some (.text _) | some .binary => .error .notADatabase

def settings (around : Surroundings) (a : Arguments) : Except ProgramError Config := do
  let config ← (Config.load around a.configPath).mapError .settings
  config.validate.mapError .validation
  return config

/-- The path of the catalogue; an argument goes before the settings. -/
def cataloguePath (a : Arguments) (config : Config) : String :=
  a.databasePath.getD config.databasePath

def answer (around : Surroundings) (a : Arguments) : Except ProgramError String := do
  let config ← settings around a
  let store ← (openCatalogue around (cataloguePath a config)).mapError .catalogue
  (run store config.display a).mapError .command

structure Outcome where
  output : String := ""
  errors : String := ""
  code : Nat := 0

def outcome (around : Surroundings) (a : Arguments) : Outcome :=
  match answer around a with
  | .ok "" => {}
  | .ok text => { output := text ++ "\n" }
  | .error e => { errors := "error: " ++ e.message ++ "\n", code := 1 }

end CardCatalog.CommandLine
