import CardCatalog.Card.Faces
import CardCatalog.NameList
import CardCatalog.Query.Basic
import CardCatalog.Store.Basic
import CardCatalog.Text.Pattern

/-!
The truth of queries on stored rows. A card row is seen together with its set, one of its
legalities and its latest price; conditions on what is missing are unknown, except for lists and
mana costs, where what is missing is empty.
-/

set_option autoImplicit false

namespace CardCatalog

namespace Store

/-- The colors that a row is found by: the halves of split and aftermath cards have the colors of
the whole card. -/
def wholeColors (s : Store) (r : CardRow) : Option String :=
  if r.layout = "split" || r.layout = "aftermath" then
    let siblings := s.cards.filter fun c => NameList.holds r.otherFaceIds (some c.uuid)
    let joined := ",".intercalate (siblings.filterMap (·.colors)) ++ "," ++ r.colors.getD ""
    -- Where one side has no colors the comma between the two is dropped again.
    let isComma (c : Char) : Bool := c == ','
    some (String.ofList
      ((joined.toList.dropWhile isComma).reverse.dropWhile isComma).reverse)
  else r.colors

end Store

/-- A card row with its set, one of its legalities and its latest price. -/
structure JoinedRow where
  card : CardRow
  set : SetInfo
  legality : Option Legality
  price : Option PriceRow

namespace CardRow

/-- Sides are compared only where there is one. -/
def sideIs (r : CardRow) (side : String) : Truth :=
  .ofOption (· == side) r.side

def sideMissing (r : CardRow) : Truth :=
  .ofBool r.side.isNone

def layoutIs (r : CardRow) (layout : String) : Truth :=
  .ofBool (r.layout == layout)

/-- The first of the names of all faces. -/
def firstFaceName (r : CardRow) : Option String :=
  NameList.face? (some r.name) 0

/-- Whether a row stands for a whole card in listings. -/
def primaryFace (r : CardRow) : Truth :=
  ((((r.sideMissing.and (r.layoutIs "split").not).or (r.sideIs "a")).or
    ((r.layoutIs "meld").and (r.sideIs "b"))).or
    ((r.sideMissing.and (r.layoutIs "split")).and
      (.ofOption (· == r.displayName) r.firstFaceName)))

/-- Whether two names, both known, differ. -/
def namesDiffer : Option String → Option String → Truth
  | some a, some b => .ofBool (a != b)
  | _, _ => .unknown

/-- Whether a row is another face of the card on which it lies. -/
def siblingFace (r : CardRow) : Truth :=
  (((r.layoutIs "meld").not.and (r.sideIs "a").not).or
    (((r.layoutIs "meld").and (r.sideIs "a").not).and (r.sideIs "b").not)).or
    ((r.sideMissing.and (r.layoutIs "split")).and (namesDiffer r.faceName r.firstFaceName))

end CardRow

namespace Query

/-- The number at the front of a text: blanks, a sign and digits; zero if there is none. It is
clamped to 64 bits. -/
def leadingInt (s : String) : Int :=
  let isBlank (c : Char) : Bool := c == ' ' || ('\t' ≤ c && c ≤ '\r')
  let (negative, cs) := match s.toList.dropWhile isBlank with
    | '-' :: rest => (true, rest)
    | '+' :: rest => (false, rest)
    | all => (false, all)
  let n : Int := Nat.ofDigitChars 10 (cs.takeWhile Char.isDigit) 0
  max (-(Nat.pow 2 63 : Int)) (min (Nat.pow 2 63 - 1) (if negative then -n else n))

/-- A column as a number, compared with a whole number. -/
def compareColumn (c : Comparison) (n : Int) (column : Option String) : Truth :=
  .ofOption (fun text => c.holds (compare (leadingInt text) n)) column

def compareSets (size : Option String → Nat) (contains : Option String → Option String → Bool)
    (c : Comparison) (column : Option String) (value : String) : Bool :=
  let low := some (Text.fold value)
  let lowColumn := column.map Text.fold
  -- Sizes are taken of the column as it is stored; only containment is up to case.
  let sizes (c : Comparison) := c.holds (compare (size column) (size low))
  let above := contains lowColumn low
  let below := contains low lowColumn
  let equal := sizes .equal && below && above
  match c with
  | .greater | .atLeast => sizes c && above
  | .less | .atMost => sizes c && below
  | .equal => equal
  | .differs => !equal

def compareColors : Comparison → Option String → String → Bool :=
  compareSets NameList.tagCount NameList.includes

def compareMana : Comparison → Option String → String → Bool :=
  compareSets Mana.total Mana.contains

/-- Whether a name is the wanted one, or holds it, up to the case of ASCII letters. -/
def matchesName (value : String) (exact : Bool) (name : String) : Bool :=
  if exact then Text.sameFolded name value
  else Text.like (Text.fold name) (Text.fold (anywhere value))

def matchesText (value : String) (text : String) : Bool :=
  Text.like (Text.fold text) (Text.fold (anywhere value))

def matchesType (value : String) (r : CardRow) : Bool :=
  let holds (list : Option String) : Bool :=
    NameList.holds (list.map Text.fold) (some (Text.fold value))
  holds r.subtypes || holds r.supertypes || holds (some r.types)

/-- The stored price compared with an amount rounded to hundredths. -/
def comparePrice (c : Comparison) (amount : Float) (price : Option PriceRow) : Truth :=
  match price.bind (·.price) with
  | none => .unknown
  | some price =>
    if Number.isNaN amount then .unknown
    else .ofBool (c.holds (Number.order price (Number.roundToHundredths amount)))

/-- A text column compared with a value up to the case of ASCII letters. -/
def TextColumn.value (column : TextColumn) (j : JoinedRow) : Option String :=
  match column with
  | .setCode => some j.card.setCode
  | .format => j.legality.map (·.format)
  | .rarity => j.card.rarity
  | .layout => some j.card.layout

namespace Term

/-- The condition of a term on the row itself. -/
def onRow (s : Store) (t : Term) (j : JoinedRow) : Truth :=
  match t with
  | name value exact => .ofBool (matchesName value exact j.card.displayName)
  | text value => .ofOption (matchesText value) j.card.text
  | column c value => .ofOption (Text.sameFolded value) (c.value j)
  | measure .cmc c n => .ofOption c.holds (Number.orderInt j.card.cmc n)
  | measure .loyalty c n => compareColumn c n j.card.loyalty
  | measure .power c n => compareColumn c n j.card.power
  | measure .toughness c n => compareColumn c n j.card.toughness
  | measure .year c n =>
    .ofOption (fun year => c.holds (compare year n)) (j.set.date.bind Date.storedYear?)
  | price c amount => comparePrice c amount j.price
  | type value => .ofBool (matchesType value j.card)
  | colors c tags => .ofBool (compareColors c (s.wholeColors j.card) tags)
  | mana c cost => .ofBool (compareMana c j.card.manaCost cost)

def onFace? (t : Term) : Option (List Layout × (CardRow → Truth)) :=
  match t with
  | name value exact =>
    some (Layout.multiFace, fun f => .ofOption (matchesName value exact) f.faceName)
  | text value => some (Layout.multiFace, fun f => .ofOption (matchesText value) f.text)
  | measure .power c n => some (powerLayouts, fun f => compareColumn c n f.power)
  | measure .toughness c n => some (powerLayouts, fun f => compareColumn c n f.toughness)
  | type value => some (Layout.multiFace, fun f => .ofBool (matchesType value f))
  | colors c tags => some (colorLayouts, fun f => .ofBool (compareColors c f.colors tags))
  | mana c cost => some (manaLayouts, fun f => .ofBool (compareMana c f.manaCost cost))
  | column .. | measure .cmc .. | measure .loyalty .. | measure .year .. | price .. => none

/-- Whether another face of the card satisfies a condition. It is never unknown. -/
def onSomeFace (s : Store) (layouts : List Layout) (condition : CardRow → Truth) (r : CardRow) :
    Bool :=
  r.otherFaceIds.isSome && (layouts.map Layout.name).contains r.layout &&
    s.cards.any fun f =>
      NameList.holds r.otherFaceIds (some f.uuid) && (f.siblingFace.and (condition f)).holds

def truth (s : Store) (t : Term) (j : JoinedRow) : Truth :=
  match t.onFace? with
  | none => t.onRow s j
  | some (layouts, condition) =>
    (t.onRow s j).or (.ofBool (onSomeFace s layouts condition j.card))

end Term

def truth (s : Store) {r : Rank} (q : Query r) (j : JoinedRow) : Truth :=
  q.eval fun t => t.truth s j

end Query

end CardCatalog
