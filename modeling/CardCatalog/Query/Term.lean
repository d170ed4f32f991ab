import CardCatalog.Mana
import CardCatalog.Number.Rounding
import CardCatalog.Query.Error
import CardCatalog.Query.Fragment
import CardCatalog.Query.Keyword

/-!
Search terms by what they ask for. A keyword, an operator and a value make a term when the
keyword accepts the operator and the value; every term has a condition in SQL whose text depends
on the kind of the term and never on its value.
-/

set_option autoImplicit false

namespace CardCatalog.Query

/-- Text columns that a value must equal up to case. -/
inductive TextColumn where
  | setCode
  | format
  | rarity
  | layout
  deriving DecidableEq, Repr

def TextColumn.sql : TextColumn → String
  | setCode => "cards.setCode"
  | format => "legalities.format"
  | rarity => "cards.rarity"
  | layout => "cards.layout"

inductive Measure where
  | cmc
  | loyalty
  | power
  | toughness
  | year
  deriving DecidableEq, Repr

/-- The meaning of one search term. -/
inductive Term where
  | name (value : String) (exact : Bool)
  | text (value : String)
  | column (column : TextColumn) (value : String)
  | measure (measure : Measure) (comparison : Comparison) (value : Int)
  | price (comparison : Comparison) (amount : Float)
  | type (value : String)
  | colors (comparison : Comparison) (tags : String)
  | mana (comparison : Comparison) (cost : String)

/-- A whole number with an optional sign that fits in 64 bits. -/
def readInt? (s : String) : Option Int :=
  let (negative, digits) := match s.toList with
    | '-' :: rest => (true, rest)
    | '+' :: rest => (false, rest)
    | all => (false, all)
  if digits ≠ [] ∧ digits.all Char.isDigit then
    let n : Int := Nat.ofDigitChars 10 digits 0
    let n := if negative then -n else n
    if -(Nat.pow 2 63 : Int) ≤ n ∧ n < Nat.pow 2 63 then some n else none
  else none

/-- Digits, possibly with a point and more digits, as the nearest float. -/
def readAmount? (s : String) : Option Float :=
  let cs := s.toList
  let whole := cs.takeWhile Char.isDigit
  if whole = [] then none
  else
    match cs.dropWhile Char.isDigit with
    | [] => some (Number.Decimal.toFloat ⟨Nat.ofDigitChars 10 whole 0, 0⟩)
    | '.' :: places =>
      if places ≠ [] ∧ places.all Char.isDigit then
        some (Number.Decimal.toFloat
          ⟨Nat.ofDigitChars 10 (whole ++ places) 0, -(places.length : Int)⟩)
      else none
    | _ => none

/-- The letters of a text, made small, as a set of tags; there must be one at least. -/
def readColors? (s : String) : Option String :=
  match s.toList.filter Char.isAlpha with
  | [] => none
  | letters => some (",".intercalate (letters.map fun c => String.singleton c.toLower))

/-- A cost with at least one symbol. -/
def readCost? (s : String) : Option String :=
  if Mana.symbols s = [] then none else some s

/-- The term for a keyword with a value; `none` when the value does not fit the keyword. Prices
are typed in a currency of which `rate` units are one dollar. -/
def Keyword.term? (rate : Float) (keyword : Keyword) (comparison : Comparison) (exact : Bool)
    (value : String) : Option Term :=
  match keyword with
  | .name => some (.name value exact)
  | .text => some (.text value)
  | .set => some (.column .setCode value)
  | .legal => some (.column .format value)
  | .rarity => some (.column .rarity value)
  | .layout => some (.column .layout value)
  | .cmc => (readInt? value).map (.measure .cmc comparison)
  | .loyalty => (readInt? value).map (.measure .loyalty comparison)
  | .power => (readInt? value).map (.measure .power comparison)
  | .toughness => (readInt? value).map (.measure .toughness comparison)
  | .year => (readInt? value).map (.measure .year comparison)
  | .price => (readAmount? value).map fun amount => .price comparison (amount / rate)
  | .type => some (.type value)
  | .colors => (readColors? value).map (.colors comparison)
  | .mana => (readCost? value).map (.mana comparison)

/-- The term of a keyword, an operator and a value. The keyword is looked up first, then the
operator and the exact mark are checked, then the value. -/
def Term.ofKeyword (rate : Float) (word : String) (operator : Operator) (exact : Bool)
    (value : String) : Except QueryError Term :=
  match Keyword.ofWord? word with
  | none => .error (.unknownKeyword word)
  | some keyword =>
    if !operator.isEquality && !keyword.acceptsComparison then
      .error (.unsupportedOperator word operator.sign)
    else if exact && !keyword.acceptsExact then
      .error (.unsupportedOperator word (operator.sign ++ "!"))
    else
      match keyword.term? rate (operator.comparison keyword) exact value with
      | some term => .ok term
      | none => .error (.invalidValue keyword.canonical value)

/-! ## The condition of a term -/

/-- Layouts whose other faces have a power and toughness of their own. -/
def powerLayouts : List Layout := [.aftermath, .flip, .transform, .meld]

/-- Layouts whose other faces have colors of their own. -/
def colorLayouts : List Layout := [.transform, .meld]

/-- Layouts whose other faces have a mana cost of their own. -/
def manaLayouts : List Layout := [.adventure, .split, .aftermath]

/-- The functions that measure and compare a column that holds a set. -/
structure SetFunctions where
  size : String
  contains : String

def colorFunctions : SetFunctions := ⟨"csv_len", "csv_set_contains"⟩

def manaFunctions : SetFunctions := ⟨"manacost_to_cmc", "manacost_contains"⟩

/-- The text of a comparison of sets: a comparison of sizes, and containment in the direction of
the comparison. -/
def setComparisonSql (fns : SetFunctions) (column : String) (c : Comparison) : String :=
  let size (c : Comparison) :=
    fns.size ++ "(" ++ column ++ ") " ++ c.sql ++ " " ++ fns.size ++ "(lower(?))"
  let above := fns.contains ++ "(lower(" ++ column ++ "), lower(?))"
  let below := fns.contains ++ "(lower(?), lower(" ++ column ++ "))"
  let equal := "( " ++ size .equal ++ " AND " ++ below ++ " AND " ++ above ++ " )"
  match c with
  | .greater | .atLeast => "( " ++ size c ++ " AND " ++ above ++ " )"
  | .less | .atMost => "( " ++ size c ++ " AND " ++ below ++ " )"
  | .equal => equal
  | .differs => "NOT " ++ equal

def typeSql (table : String) : String :=
  "(csv_in(lower(" ++ table ++ ".subtypes), lower(?)) OR " ++
  "csv_in(lower(" ++ table ++ ".supertypes), lower(?)) OR " ++
  "csv_in(lower(" ++ table ++ ".types), lower(?)))"

def integerSql (column : String) (c : Comparison) : String :=
  "CAST(" ++ column ++ " AS INTEGER) " ++ c.sql ++ " ?"

/-- The value with the wildcard for any text on both sides. -/
def anywhere (value : String) : String :=
  "%" ++ value ++ "%"

namespace Term

def fragment : Term → Fragment
  | name value exact =>
    let (sign, bound) := if exact then ("=", value) else ("LIKE", anywhere value)
    .onFaces
      (.ofValue ("lower(v_name) " ++ sign ++ " lower(?)") (.text bound))
      (.ofValue ("lower(face.faceName) " ++ sign ++ " lower(?)") (.text bound))
      Layout.multiFace
  | text value =>
    .onFaces
      (.ofValue "lower(cards.text) LIKE lower(?)" (.text (anywhere value)))
      (.ofValue "lower(face.text) LIKE lower(?)" (.text (anywhere value)))
      Layout.multiFace
  | column c value => .onCard (.ofValue ("lower(" ++ c.sql ++ ") = lower(?)") (.text value))
  | measure .cmc c n =>
    .onCard (.ofValue ("cards.convertedManaCost " ++ c.sql ++ " ?") (.int n))
  | measure .loyalty c n => .onCard (.ofValue (integerSql "cards.loyalty" c) (.int n))
  | measure .power c n =>
    .onFaces (.ofValue (integerSql "cards.power" c) (.int n))
      (.ofValue (integerSql "face.power" c) (.int n)) powerLayouts
  | measure .toughness c n =>
    .onFaces (.ofValue (integerSql "cards.toughness" c) (.int n))
      (.ofValue (integerSql "face.toughness" c) (.int n)) powerLayouts
  | measure .year c n =>
    .onCard (.ofValue
      (integerSql "strftime('%Y', DATE(sets.releaseDate))" c) (.int n))
  | price c amount =>
    .onCard (.ofValue
      ("(prices.price " ++ c.sql ++ " round(?, 2) AND prices.type = 'paper')") (.real amount))
  | type value =>
    .onFaces (.ofValue (typeSql "cards") (.text value)) (.ofValue (typeSql "face") (.text value))
      Layout.multiFace
  | colors c tags =>
    .onFaces (.ofValue (setComparisonSql colorFunctions "colors_sp" c) (.text tags))
      (.ofValue (setComparisonSql colorFunctions "face.colors" c) (.text tags)) colorLayouts
  | mana c cost =>
    .onFaces (.ofValue (setComparisonSql manaFunctions "cards.manaCost" c) (.text cost))
      (.ofValue (setComparisonSql manaFunctions "face.manaCost" c) (.text cost)) manaLayouts

end Term

end CardCatalog.Query
