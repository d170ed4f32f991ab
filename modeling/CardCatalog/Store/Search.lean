import CardCatalog.Store.Lookup

/-!
Listing cards. Only paper printings outside the novelty sets are considered, and of every card
only the face that stands for it; of several printings under one name the first that satisfies
the query is listed.
-/

set_option autoImplicit false

namespace CardCatalog

structure SearchOptions where
  sort : SortKey := .name
  reverse : Bool := false
  limit : Option Nat := none

/-- Novelty sets, which listings never show. -/
def excludedSets : List String :=
  ["CMB1", "HHO", "PTG", "HTR", "HTR17", "HTR18", "H17"]

/-- The first item of each name that has not been seen yet, in order. -/
def firstOfEachName {α : Type} (name : α → String) (seen : List String) : List α → List α
  | [] => []
  | a :: rest =>
    if name a ∈ seen then firstOfEachName name seen rest
    else a :: firstOfEachName name (name a :: seen) rest

/-- The order of numbers that may be missing, a missing one first. -/
def optionalOrder : Option Float → Option Float → Ordering
  | none, none => .eq
  | none, some _ => .lt
  | some _, none => .gt
  | some a, some b => Number.order a b

namespace JoinedRow

def keyOrder (key : SortKey) (a b : JoinedRow) : Ordering :=
  match key with
  | .name => compare a.card.displayName b.card.displayName
  | .cmc => Number.order a.card.cmc b.card.cmc
  | .price => optionalOrder (a.price.bind (·.price)) (b.price.bind (·.price))
  | .setCode => compare a.card.setCode b.card.setCode

def order (key : SortKey) (a b : JoinedRow) : Ordering :=
  (keyOrder key a b).then (compare a.card.displayName b.card.displayName)

end JoinedRow

namespace Store

/-- A row joined with each of its legalities, or with none if it has none; a row whose set is not
known is left out. -/
def join (s : Store) (r : CardRow) : List JoinedRow :=
  match s.set? r.setCode with
  | none => []
  | some set =>
    let price := s.latestPrice r.uuid
    match s.legalitiesOf r.uuid with
    | [] => [⟨r, set, none, price⟩]
    | legalities => legalities.map fun l => ⟨r, set, some l, price⟩

def isListable (r : CardRow) : Bool :=
  r.isPaper && !excludedSets.contains r.setCode && r.primaryFace.holds

def satisfies (s : Store) (query : Option (Query .any)) (j : JoinedRow) : Bool :=
  match query with
  | none => true
  | some q => (q.truth s j).holds

/-- The rows that a query lists, one for each name, in the order of the store. -/
def listed (s : Store) (query : Option (Query .any)) : List JoinedRow :=
  firstOfEachName (·.card.displayName) []
    ((s.cards.flatMap s.join).filter fun j => isListable j.card && s.satisfies query j)

def sorted (s : Store) (query : Option (Query .any)) (o : SearchOptions) : List JoinedRow :=
  -- No two listed rows have one name, so none are equal in this order.
  let rows := (s.listed query).mergeSort fun a b =>
    if o.reverse then JoinedRow.order o.sort a b != .lt else JoinedRow.order o.sort a b != .gt
  match o.limit with
  | some n => rows.take n
  | none => rows

def search (s : Store) (query : Option (Query .any)) (o : SearchOptions) :
    Except StoreError (List Card) :=
  (s.sorted query o).mapM fun j => s.resolve {} j.price j.card

end Store

end CardCatalog
