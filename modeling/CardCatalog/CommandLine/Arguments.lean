import CardCatalog.Store.Lookup

/-!
The arguments of the command line, and what can be wrong with them.
-/

set_option autoImplicit false

namespace CardCatalog.CommandLine

/-- The kinds of listings; without one a single card is shown. -/
inductive Listing where
  | details
  | names
  | allNames
  deriving DecidableEq, Repr

inductive Flag where
  | listing (l : Listing)
  | noHeader
  | reverse
  | verbose
  | rulings
  | json
  deriving DecidableEq, Repr

inductive Setting where
  | sort
  | limit
  | setCode
  | format
  | config
  | database
  deriving DecidableEq, Repr

inductive Switch where
  | flag (f : Flag)
  | setting (s : Setting)
  | help
  | version
  deriving DecidableEq, Repr

def Switch.ofLetter? : Char → Option Switch
  | 'l' => some (.flag (.listing .details))
  | 'n' => some (.flag (.listing .names))
  | 'N' => some (.flag (.listing .allNames))
  | 'q' => some (.flag .noHeader)
  | 'r' => some (.flag .reverse)
  | 'L' => some (.setting .limit)
  | 'v' => some (.flag .verbose)
  | 'R' => some (.flag .rulings)
  | 's' => some (.setting .setCode)
  | 'f' => some (.setting .format)
  | 'h' => some .help
  | 'V' => some .version
  | _ => none

def Switch.ofWord? (word : String) : Option Switch :=
  match word with
  | "sort" => some (.setting .sort)
  | "set" => some (.setting .setCode)
  | "format" => some (.setting .format)
  | "json" => some (.flag .json)
  | "config" => some (.setting .config)
  | "db" => some (.setting .database)
  | "help" => some .help
  | "version" => some .version
  | _ => none

structure Arguments where
  listing : Option Listing := none
  noHeader : Bool := false
  sort : SortKey := .name
  reverse : Bool := false
  limit : Option Nat := none
  /-- With prices, printings and formats, or with the number of matches. -/
  verbose : Bool := false
  rulings : Bool := false
  setCode : Option String := none
  format : Option String := none
  json : Bool := false
  configPath : Option String := none
  databasePath : Option String := none
  /-- The words of the query or of the name. -/
  words : List String := []

/-- The words with one space between them. -/
def Arguments.text (a : Arguments) : String :=
  " ".intercalate a.words

/-- Why arguments cannot be used as they are. -/
inductive UsageError where
  | unknownSwitch (text : String)
  /-- A switch that is given twice. -/
  | repeated
  /-- Two listings, or a listing and an option for a single card. -/
  | conflicting
  | needsListing
  | missingValue (s : Setting)
  | unknownSortKey (text : String)
  | badLimit (text : String)
  /-- A value for a switch that takes none. -/
  | unexpectedValue (text : String)
  | helpRequested
  | versionRequested
  deriving DecidableEq, Repr

def Setting.name : Setting → String
  | sort => "--sort"
  | limit => "-L"
  | setCode => "--set"
  | format => "--format"
  | config => "--config"
  | database => "--db"

def UsageError.message : UsageError → String
  | unknownSwitch text => "unknown option '" ++ text ++ "'"
  | repeated => "an option is given more than once"
  | conflicting => "these options cannot be used together"
  | needsListing => "-q needs a listing"
  | missingValue s => "a value is required for '" ++ s.name ++ "'"
  | unknownSortKey text => "invalid value '" ++ text ++ "' for '--sort'"
  | badLimit text => "invalid value '" ++ text ++ "' for '-L'"
  | unexpectedValue text => "unexpected value '" ++ text ++ "'"
  | helpRequested | versionRequested => ""

end CardCatalog.CommandLine
