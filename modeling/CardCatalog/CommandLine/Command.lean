import CardCatalog.Card.Json
import CardCatalog.CommandLine.Arguments
import CardCatalog.Display.Page
import CardCatalog.Json.Pretty
import CardCatalog.Query.Parser
import CardCatalog.Store.Printings
import CardCatalog.Store.Search

/-!
What a command line asks for: a listing of the cards that match a query, or one card by its name.
-/

set_option autoImplicit false

namespace CardCatalog.CommandLine

inductive CommandError where
  | query (e : Query.QueryError)
  | store (e : StoreError)
  | noName
  /-- Control characters in a card that does not fit in its columns. -/
  | unprintable

def CommandError.message : CommandError → String
  | query e => e.message
  | store e => e.message
  | noName => "no card name given"
  | unprintable => "a card has control characters"

/-- Lines that may not be printable. -/
def printed {α : Type} : Option α → Except CommandError α
  | some a => .ok a
  | none => .error .unprintable

def listingLines (settings : DisplaySettings) (l : Listing) (header : Bool) (cards : List Card) :
    Except CommandError (List String) :=
  match l with
  | .names => .ok (Display.nameListing false cards)
  | .allNames => .ok (Display.nameListing true cards)
  | .details => printed (Display.detailListing? settings header cards)

def listCards (s : Store) (settings : DisplaySettings) (a : Arguments) (l : Listing) :
    Except CommandError String := do
  let query ← (Query.compile settings.rate a.text).mapError .query
  let options : SearchOptions := { sort := a.sort, reverse := a.reverse, limit := a.limit }
  let cards ← (s.search query options).mapError .store
  if a.json then return (JsonValue.array (cards.map Card.toJson)).pretty
  let lines ← listingLines settings l (!a.noHeader) cards
  let count := if a.verbose then [toString cards.length ++ " matches"] else []
  return "\n".intercalate (lines ++ count)

def showCard (s : Store) (settings : DisplaySettings) (a : Arguments) :
    Except CommandError String := do
  if Text.trim a.text = "" then throw .noName
  let card ← (s.getCard
    { name := a.text
      setCode := a.setCode
      format := a.format.or settings.defaultFormat
      verbose := a.verbose
      rulings := a.rulings }).mapError .store
  if a.json then return card.toJson.pretty
  let printings :=
    if a.verbose then
      some (if card.token then s.tokenPrintings card.name else s.printings card.name)
    else none
  let sets := if a.verbose then s.allSets else []
  let lines ← printed (Display.cardPage? settings card printings sets)
  return "\n".intercalate (lines.map String.ofList)

def run (s : Store) (settings : DisplaySettings) (a : Arguments) : Except CommandError String :=
  match a.listing with
  | some l => listCards s settings a l
  | none => showCard s settings a

end CardCatalog.CommandLine
