import CardCatalog.CommandLine.Program
import CardCatalog.Database.Catalogue

/-!
The program that shows cards and lists the cards that match a query.
-/

set_option autoImplicit false

namespace CardCatalog.Main

def usage : String :=
  "Either print a card by name or list cards matching a query\n\n" ++
  "Usage: mtgcard [OPTIONS] [QUERY]...\n\n" ++
  "Options:\n" ++
  "  -l               List card summaries matching the query\n" ++
  "  -n               List card names matching the query\n" ++
  "  -N               List card names, all faces, matching the query\n" ++
  "  -q               Hide the header of the summary listing\n" ++
  "      --sort KEY   Sort key of listings: name, cmc, price or setcode\n" ++
  "  -r               Reverse the sort order\n" ++
  "  -L N             List at most N cards\n" ++
  "  -v               Card: show price, printings and formats. Listing: show match count\n" ++
  "  -R               Show rulings\n" ++
  "  -s, --set SET    Print the card from this set\n" ++
  "  -f, --format F   Print the card only if legal in this format\n" ++
  "      --json       Machine readable output\n" ++
  "      --config P   Configuration file\n" ++
  "      --db P       Card database, overriding the configured one\n" ++
  "  -h, --help       Print help\n" ++
  "  -V, --version    Print version"

def version : String := "mtgcard 0.1.0"

def readEntry (path : String) : IO (Option FileEntry) := do
  try
    return some (.ofBytes (← IO.FS.readBinFile path))
  catch
    | .noFileOrDirectory .. => return none
    | .inappropriateType .. => return some .folder
    | _ => return some .binary

/-- A variable and its value, with an equals sign between them. -/
def assignment? (text : String) : Option (String × String) :=
  let name := text.toList.takeWhile (· ≠ '=')
  if name.length < text.length then
    some (String.ofList name, String.ofList (text.toList.drop (name.length + 1)))
  else none

def readVariables : IO (List (String × String)) := do
  try
    let bytes ← IO.FS.readBinFile "/proc/self/environ"
    return ((String.fromUTF8? bytes).getD "").splitOn "\x00" |>.filterMap assignment?
  catch _ => return []

/-- The surroundings of a run, with the only two files that it can look at. -/
def readSurroundings (a : CommandLine.Arguments) : IO Surroundings := do
  let bindings ← readVariables
  let configPath := Config.documentPath bindings a.configPath
  let document ← readEntry configPath
  let around : Surroundings :=
    { bindings, file? := fun path => if path = configPath then document else none }
  match CommandLine.settings around a with
  | .error _ => return around
  | .ok config =>
    let path := CommandLine.cataloguePath a config
    let catalogue ← readEntry path
    return { around with file? := fun p => if p = path then catalogue else around.file? p }

def run (words : List String) : IO UInt32 := do
  match CommandLine.Arguments.parse words with
  | .error .helpRequested =>
    IO.println usage
    return 0
  | .error .versionRequested =>
    IO.println version
    return 0
  | .error e =>
    IO.eprintln ("error: " ++ e.message)
    return 1
  | .ok a =>
    let o := CommandLine.outcome (← readSurroundings a) a
    IO.print o.output
    IO.eprint o.errors
    return UInt32.ofNat o.code

end CardCatalog.Main

def main (words : List String) : IO UInt32 :=
  CardCatalog.Main.run words
