import CardCatalog.CommandLine.Arguments
import CardCatalog.Query.Term

/-!
Reading the arguments of the command line, one word after the other. Letters of switches may be
joined after one hyphen, and the value of an option may stand in the same word or be the next one.
The value of an option is checked only when the next thing is settled, so that an unknown switch
right after it is reported first.
-/

set_option autoImplicit false

namespace CardCatalog.CommandLine

/-- An option whose value is still to come, or has come but is not checked yet. -/
inductive Pending where
  | none
  | awaiting (s : Setting)
  | given (s : Setting) (value : String)

structure Draft where
  flags : List Flag := []
  settings : List Setting := []
  arguments : Arguments := {}
  pending : Pending := .none
  /-- After a word of two hyphens every word is one of the query. -/
  onlyWords : Bool := false

def maxLimit : Nat := Nat.pow 2 32 - 1

def readLimit? (text : String) : Option Nat :=
  match Query.readInt? text with
  | some n => if 0 ≤ n ∧ n ≤ maxLimit then some n.toNat else none
  | none => none

def SortKey.ofText? (text : String) : Option SortKey :=
  [SortKey.name, .cmc, .price, .setCode].find? (·.text = text)

namespace Arguments

def put (a : Arguments) (s : Setting) (value : String) : Except UsageError Arguments :=
  match s with
  | .sort =>
    match SortKey.ofText? value with
    | some key => .ok { a with sort := key }
    | none => .error (.unknownSortKey value)
  | .limit =>
    match readLimit? value with
    | some n => .ok { a with limit := some n }
    | none => .error (.badLimit value)
  | .setCode => .ok { a with setCode := some value }
  | .format => .ok { a with format := some value }
  | .config =>
    if value = "" then .error (.missingValue .config) else .ok { a with configPath := some value }
  | .database =>
    if value = "" then .error (.missingValue .database)
    else .ok { a with databasePath := some value }

end Arguments

namespace Draft

/-- Takes up the value of an option, which may be given only once. -/
def put (d : Draft) (s : Setting) (value : String) : Except UsageError Draft := do
  if s ∈ d.settings then throw .repeated
  return { d with settings := s :: d.settings, arguments := ← d.arguments.put s value }

def settle (d : Draft) : Except UsageError Draft :=
  match d.pending with
  | .none => .ok d
  | .awaiting s => .error (.missingValue s)
  | .given s value => { d with pending := .none }.put s value

def putFlag (d : Draft) (f : Flag) : Except UsageError Draft := do
  let d ← d.settle
  if f ∈ d.flags then throw .repeated
  return { d with flags := f :: d.flags }

/-- A word of the query, or the value of the option that is awaiting one. -/
def putWord (d : Draft) (word : String) : Except UsageError Draft :=
  match d.pending, d.onlyWords with
  | .awaiting s, false => .ok { d with pending := .given s word }
  | _, _ => do
    let d ← d.settle
    return { d with arguments := { d.arguments with words := d.arguments.words ++ [word] } }

def putLong (d : Draft) (name : List Char) (value : Option (List Char)) :
    Except UsageError Draft := do
  match Switch.ofWord? (String.ofList name), value with
  -- An unknown switch goes before a fault in the value that is pending.
  | none, _ => throw (.unknownSwitch (String.ofList name))
  | some (.setting s), some value => (← d.settle).put s (String.ofList value)
  | some (.setting s), none => return { ← d.settle with pending := .awaiting s }
  | some _, some value => throw (.unexpectedValue (String.ofList value))
  | some (.flag f), none => d.putFlag f
  | some .help, none => discard d.settle; throw .helpRequested
  | some .version, none => discard d.settle; throw .versionRequested

/-- Joined letters of switches; what follows the letter of an option is its value. -/
def putShort (d : Draft) : List Char → Except UsageError Draft
  | [] => .ok d
  | c :: rest =>
    match Switch.ofLetter? c with
    | none => .error (.unknownSwitch (String.singleton c))
    | some (.flag f) => do (← d.putFlag f).putShort rest
    | some .help => do discard d.settle; throw .helpRequested
    | some .version => do discard d.settle; throw .versionRequested
    | some (.setting s) => do
      let d ← d.settle
      match rest with
      | [] => return { d with pending := .awaiting s }
      | '=' :: value => d.put s (String.ofList value)
      | value => d.put s (String.ofList value)

def step (d : Draft) (word : String) : Except UsageError Draft :=
  if d.onlyWords then d.putWord word
  else
    match word.toList with
    | ['-', '-'] => .ok { d with onlyWords := true }
    | '-' :: '-' :: long =>
      let name := long.takeWhile (· != '=')
      match long.dropWhile (· != '=') with
      | _ :: value => d.putLong name (some value)
      | [] => d.putLong name none
    | '-' :: c :: rest => d.putShort (c :: rest)
    | _ => d.putWord word

def listings (d : Draft) : List Listing :=
  d.flags.filterMap fun
    | .listing l => some l
    | _ => none

def finish (d : Draft) : Except UsageError Arguments := do
  let d ← d.settle
  -- A set or a format is asked of a single card.
  let single := d.settings.contains .setCode || d.settings.contains .format
  if 1 < d.listings.length || (single && d.listings ≠ []) then throw .conflicting
  if .noHeader ∈ d.flags ∧ d.listings = [] then throw .needsListing
  return { d.arguments with
    listing := d.listings.head?
    noHeader := .noHeader ∈ d.flags
    reverse := .reverse ∈ d.flags
    verbose := .verbose ∈ d.flags
    rulings := .rulings ∈ d.flags
    json := .json ∈ d.flags }

end Draft

def Arguments.parse (words : List String) : Except UsageError Arguments := do
  (← words.foldlM Draft.step {}).finish

end CardCatalog.CommandLine
