import CardCatalog.Card.Faces
import CardCatalog.Store.Condition

/-!
Finding a single card by name. Of several printings one in a main set is preferred, and then the
newest. A name that only ever stands for the second half of a card finds the whole card, and a
name that ends in "token" finds the token.
-/

set_option autoImplicit false

namespace CardCatalog

structure CardLookup where
  name : String := ""
  setCode : Option String := none
  /-- Only a printing that is legal in this format. -/
  format : Option String := none
  singleSide : Bool := false
  verbose : Bool := false
  rulings : Bool := false
  deriving DecidableEq

inductive SortKey where
  | name
  | cmc
  | price
  | setCode
  deriving DecidableEq, Repr

inductive StoreError where
  | cardNotFound (lookup : CardLookup)
  | tokenNotFound (lookup : CardLookup)
  | databaseMissing (path : String)
  | notADatabase
  | cannotOpen (path : String)
  | invalidSortKey (name : String)
  /-- Second halves that name each other in a circle. -/
  | circularFaces (name : String)
  deriving DecidableEq

/-- What is not found, where, and under which name. -/
def CardLookup.missing (l : CardLookup) (what : String) : String :=
  let part : Option String → String
    | some p => " in '" ++ p ++ "'"
    | none => ""
  what ++ " not found" ++ part l.setCode ++ part l.format ++ ": '" ++ l.name ++ "'"

def StoreError.message : StoreError → String
  | cardNotFound l => l.missing "card"
  | tokenNotFound l => l.missing "token card"
  | databaseMissing path => "Card database not found: " ++ path
  | notADatabase => "Database error: file is not a database"
  | cannotOpen path => "Database error: unable to open database file: " ++ path
  | invalidSortKey name => "Internal error: invalid sort key '" ++ name ++ "'"
  | circularFaces name => "Internal error: faces of '" ++ name ++ "' refer to each other"

namespace SortKey

def text : SortKey → String
  | name => "name"
  | cmc => "cmc"
  | price => "price"
  | setCode => "setcode"

/-- The column of the result that a key sorts by. -/
def column : SortKey → String
  | name => "v_name"
  | cmc => "convertedManaCost"
  | price => "price"
  | setCode => "setCode"

def ofName (s : String) : Except StoreError SortKey :=
  let low := Text.fold s
  if low = "name" then .ok name
  else if low = "cmc" then .ok cmc
  else if low = "price" then .ok price
  else if low = "setcode" then .ok setCode
  else .error (.invalidSortKey low)

end SortKey

/-- The name of the token that a name asks for: what stands before the word token at its end. -/
def tokenName? (name : String) : Option String :=
  let cs := name.toList
  let split := cs.length - 6
  if split ≠ 0 ∧ Text.fold (String.ofList (cs.drop split)) = " token" then
    some (String.ofList (cs.take split))
  else none

/-- The names of all faces, if there are several. -/
def faceNames (name : String) : List String :=
  match NameList.faces name with
  | [_] => []
  | names => names

/-- The different entries of a comma separated column, trimmed, without the empty ones. -/
def entries (column : Option String) : List String :=
  (((Text.splitOn ',' (column.getD "").toList).map fun e => String.ofList (Text.trimChars e)).filter
    (· ≠ "")).eraseDups

/-- A mana cost without its braces; an empty one is none. -/
def bareCost (cost : Option String) : Option String :=
  (cost.map fun c => String.ofList (c.toList.filter fun c => c ≠ '{' ∧ c ≠ '}')).filter (· ≠ "")

/-- The order of printings by their sets: no set, then other kinds of sets, then main sets; of
one kind the older ones first. -/
def printingOrder (a b : Option SetInfo) : Ordering :=
  match a, b with
  | none, none => .eq
  | none, some _ => .lt
  | some _, none => .gt
  | some a, some b => (SetKind.order a.kind b.kind).then (Store.dateOrder a.date b.date)

namespace CardRow

def isPaper (r : CardRow) : Bool :=
  NameList.holds (some r.availability) (some "paper")

def sideOf (r : CardRow) : Option Side :=
  r.side.bind Side.ofName?

/-- The name under which the whole card is found, when the row never stands for it. -/
def redirect? (r : CardRow) : Option String :=
  (wholeCardName (Layout.ofName r.layout) r.sideOf (faceNames r.name)).filter fun target =>
    !Text.sameFolded target r.displayName

end CardRow

/-- Whether a legality allows a card in a format. -/
def LegalityRow.allows (r : LegalityRow) (format : String) : Bool :=
  Text.sameFolded r.legality.format format && r.legality.status = "Legal"

namespace Store

/-- The printings from the preferred one down; equal ones keep their order. -/
def preferred {α : Type} (s : Store) (setCode : α → String) (rows : List α) : List α :=
  rows.mergeSort fun a b => printingOrder (s.set? (setCode a)) (s.set? (setCode b)) != .lt

def face (s : Store) (l : CardLookup) (price : Option PriceRow) (r : CardRow) : Face where
  name := r.displayName
  names := faceNames r.name
  group := .ofColumn r.uuid r.sideOf r.otherFaceIds
  layout := Layout.ofName r.layout
  setCode := r.setCode
  manaCost := bareCost r.manaCost
  cmc := r.cmc
  power := r.power
  toughness := r.toughness
  loyalty := r.loyalty
  colors := entries (s.wholeColors r)
  types := entries (some r.types)
  typeLine := r.typeLine
  text := r.text
  rarity := r.rarity
  printings := entries r.printings
  price := price.bind (·.price)
  priceDate := price.bind (·.date)
  formats := if l.verbose then some (s.formatsOf r.uuid) else none
  rulings := if l.rulings then some (s.rulingsOf r.uuid) else none

/-- A face on its own, without its price. -/
def singleFace (s : Store) (r : CardRow) : Card :=
  ⟨s.face { singleSide := true } none r, []⟩

/-- The faces with the given identities; an identity without a row is passed over. -/
def otherFaces (s : Store) (g : FaceGroup) : List Card :=
  g.siblings.filterMap fun uuid => (s.card? uuid).map s.singleFace

def cardOf (s : Store) (l : CardLookup) (price : Option PriceRow) (r : CardRow) : Card :=
  let face := s.face l price r
  ⟨face, if l.singleSide then [] else s.otherFaces face.group⟩

/-- The lookup for the whole card of a row, if the row does not stand for it. -/
def next? (l : CardLookup) (r : CardRow) : Option CardLookup :=
  if l.singleSide then none
  else r.redirect?.map fun target =>
    -- The printing is chosen by now: the whole card is the one in its set.
    { l with name := target, setCode := some r.setCode, format := none }

def answers (l : CardLookup) (r : CardRow) : Bool :=
  Text.sameFolded r.displayName l.name && r.isPaper &&
    match l.setCode with
    | some code => Text.sameFolded r.setCode code
    | none => true

/-- The rows among which a lookup chooses: all in their order or, for a format, those that are
allowed in it, in the order of the legalities. -/
def candidates (s : Store) (l : CardLookup) : List CardRow :=
  match l.format with
  | none => s.cards
  | some format => (s.legalities.filter (·.allows format)).filterMap fun r => s.card? r.uuid

def found? (s : Store) (l : CardLookup) : Option CardRow :=
  (s.preferred (·.setCode) ((s.candidates l).filter (answers l))).head?

/-- The card of a lookup, following at most `fuel` rows to their whole cards. -/
def followCard (s : Store) : (fuel : Nat) → CardLookup → Except StoreError Card
  | fuel, l =>
    match s.found? l with
    | none => .error (.cardNotFound l)
    | some r =>
      match next? l r with
      | none => .ok (s.cardOf l (s.latestPrice r.uuid) r)
      | some next =>
        match fuel with
        | 0 => .error (.circularFaces l.name)
        | fuel + 1 => s.followCard fuel next

/-- The card of a lookup. Rows that do not form a circle are fewer than all rows. -/
def lookupCard (s : Store) (l : CardLookup) : Except StoreError Card :=
  s.followCard s.cards.length l

/-- The card of a row: of the row itself, or the whole card where the row does not stand for
it. -/
def resolve (s : Store) (l : CardLookup) (price : Option PriceRow) (r : CardRow) :
    Except StoreError Card :=
  match next? l r with
  | none => .ok (s.cardOf l price r)
  | some next => s.lookupCard next

/-- A token as a card. It has no other faces and no rulings. -/
def tokenCard (s : Store) (l : CardLookup) (r : TokenRow) : Card where
  name := r.displayName
  names := faceNames r.name
  group := .ofColumn r.uuid (r.side.bind Side.ofName?) none
  layout := Layout.ofName r.layout
  token := true
  setCode := r.setCode
  power := r.power
  toughness := r.toughness
  colors := entries r.colors
  types := entries (some r.types)
  typeLine := r.typeLine
  text := r.text
  price := (s.latestPrice r.uuid).bind (·.price)
  priceDate := (s.latestPrice r.uuid).bind (·.date)
  formats := if l.verbose then some (s.formatsOf r.uuid) else none

def lookupToken (s : Store) (l : CardLookup) : Except StoreError Card :=
  let rows := s.tokens.filter fun r =>
    Text.sameFolded r.displayName l.name &&
      match l.setCode with
      | some code => Text.sameFolded r.setCode code
      | none => true
  match (s.preferred (·.setCode) rows).head? with
  | some r => .ok (s.tokenCard l r)
  | none => .error (.tokenNotFound l)

def getCard (s : Store) (l : CardLookup) : Except StoreError Card :=
  match tokenName? l.name with
  | some name => s.lookupToken { l with name := name, format := none }
  | none => s.lookupCard l

end Store

end CardCatalog
