import CardCatalog.Config.Reading
import CardCatalog.Config.Validation
import CardCatalog.Config.Variables
import CardCatalog.Surroundings
import CardCatalog.Toml.Document

/-!
Where settings come from: the settings document that is asked for, named by a variable or found
under its usual name, and the variables of the environment laid over it.
-/

set_option autoImplicit false

namespace CardCatalog

namespace Config

/-- The settings of a document alone. -/
def ofDocument (text : String) : Except ConfigError Config :=
  match (Toml.parse? text).bind ofValue? with
  | some c => .ok c
  | none => .error .unreadable

def document? : FileEntry → Option Toml.Value
  | .folder => some (.table [])
  | .text s => Toml.parse? s
  | .catalogue _ | .binary => none

def ofEntry (bindings : List (String × String)) (entry : FileEntry) : Except ConfigError Config :=
  let settings : Option Config := do
    ofValue? ((← document? entry).merge (Variables.settings bindings))
  match settings with
  | some c => .ok c
  | none => .error .unreadable

/-- The variable that names the settings document. -/
def documentVariable : String := "MTGCARD_CONFIG"

/-- The usual name of the settings document. -/
def usualDocument : String := "mtgcard.toml"

/-- The settings of the document at a path, which must be there. -/
def loadFile (around : Surroundings) (path : String) : Except ConfigError Config :=
  match around.file? path with
  | some entry => ofEntry around.bindings entry
  | none => .error (.fileNotFound path)

/-- The path at which the settings document is looked for. -/
def documentPath (bindings : List (String × String)) (asked : Option String) : String :=
  asked.getD ((bindings.lookup documentVariable).getD usualDocument)

/-- The settings; without a document that is asked for they may come from variables alone. -/
def load (around : Surroundings) (asked : Option String) : Except ConfigError Config :=
  let path := documentPath around.bindings asked
  match asked, around.file? path with
  | none, none => ofEntry around.bindings (.text "")
  | _, _ => loadFile around path

end Config

end CardCatalog
