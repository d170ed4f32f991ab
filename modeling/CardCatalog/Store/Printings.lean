import CardCatalog.Store.Lookup

/-!
The printings of a card or token with their prices, and the sets of a store.
-/

set_option autoImplicit false

namespace CardCatalog.Store

/-- The least of some prices; of several, the first. -/
def cheapest : List Float → Option Float
  | [] => none
  | x :: rest => some (rest.foldl (fun best y => if Number.order y best = .lt then y else best) x)

def knownPrices (s : Store) (uuids : List String) : List Float :=
  uuids.flatMap fun uuid => (s.pricesOf uuid).filterMap (·.price)

/-- The set codes among pairs of set code and identity, each with its cheapest price. -/
def printingsOf (s : Store) (rows : List (String × String)) : List Printing :=
  let codes := (rows.map (·.1)).eraseDups.mergeSort fun a b => decide (a ≤ b)
  (s.preferred id codes).map fun code =>
    ⟨code, cheapest (s.knownPrices ((rows.filter (·.1 = code)).map (·.2)))⟩

def printings (s : Store) (name : String) : List Printing :=
  s.printingsOf ((s.cards.filter fun r => Text.sameFolded r.displayName name).map fun r =>
    (r.setCode, r.uuid))

def tokenPrintings (s : Store) (name : String) : List Printing :=
  s.printingsOf ((s.tokens.filter fun r => Text.sameFolded r.displayName name).map fun r =>
    (r.setCode, r.uuid))

/-- The first of the known prices of a name in a set, in ascending order. -/
def price (s : Store) (name setCode : String) : Option Float :=
  let rows := s.cards.filter fun r =>
    Text.sameFolded r.displayName name && Text.sameFolded r.setCode setCode
  ((s.knownPrices (rows.map (·.uuid))).mergeSort fun x y => Number.order x y != .gt).head?

def allSets (s : Store) : List SetInfo :=
  s.sets.mergeSort fun a b => printingOrder (some a) (some b) != .lt

end CardCatalog.Store
