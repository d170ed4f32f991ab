import CardCatalog.Query.Token
import CardCatalog.Text.Ascii

/-!
The keywords of search terms, their spellings, and the operators between keyword and value.
-/

set_option autoImplicit false

namespace CardCatalog.Query

inductive Keyword where
  | name
  | text
  | set
  | legal
  | rarity
  | layout
  | cmc
  | power
  | toughness
  | loyalty
  | year
  | price
  | type
  | colors
  | mana
  deriving DecidableEq, Repr

namespace Keyword

def spellings : List (String × Keyword) :=
  [ ("name", name), ("text", text), ("set", set), ("legal", legal), ("format", legal),
    ("f", legal), ("rarity", rarity), ("layout", layout), ("cmc", cmc), ("power", power),
    ("toughness", toughness), ("loyalty", loyalty), ("year", year), ("price", price),
    ("type", type), ("t", type), ("colors", colors), ("c", colors), ("mana", mana) ]

/-- The keyword that a word spells, in any case. -/
def ofWord? (word : String) : Option Keyword :=
  spellings.lookup (Text.fold word)

def canonical : Keyword → String
  | name => "name"
  | text => "text"
  | set => "set"
  | legal => "legal"
  | rarity => "rarity"
  | layout => "layout"
  | cmc => "cmc"
  | power => "power"
  | toughness => "toughness"
  | loyalty => "loyalty"
  | year => "year"
  | price => "price"
  | type => "type"
  | colors => "colors"
  | mana => "mana"

/-- Whether the keyword can be compared otherwise than for equality. -/
def acceptsComparison : Keyword → Bool
  | cmc | power | toughness | loyalty | year | price | colors | mana => true
  | _ => false

/-- Whether a `!` may stand before the value. -/
def acceptsExact : Keyword → Bool
  | name => true
  | _ => false

end Keyword

/-- How a stored value is compared with the value of a term. -/
inductive Comparison where
  | equal
  | differs
  | greater
  | less
  | atLeast
  | atMost
  deriving DecidableEq, Repr

def Comparison.sql : Comparison → String
  | equal => "="
  | differs => "!="
  | greater => ">"
  | less => "<"
  | atLeast => ">="
  | atMost => "<="

/-- Whether the comparison holds of two values in the given order. -/
def Comparison.holds : Comparison → Ordering → Bool
  | equal, o => o == .eq
  | differs, o => o != .eq
  | greater, o => o == .gt
  | less, o => o == .lt
  | atLeast, o => o != .lt
  | atMost, o => o != .gt

/-- An operator as typed: a colon or a comparison. -/
inductive Operator where
  | colon
  | compare (c : Comparison)
  deriving DecidableEq, Repr

namespace Operator

def ofKind? : TokenKind → Option Operator
  | .colon => some colon
  | .equal => some (compare .equal)
  | .differs => some (compare .differs)
  | .greater => some (compare .greater)
  | .less => some (compare .less)
  | .atLeast => some (compare .atLeast)
  | .atMost => some (compare .atMost)
  | _ => none

def sign : Operator → String
  | colon => ":"
  | compare c => c.sql

/-- Whether the operator is one that every keyword accepts. -/
def isEquality : Operator → Bool
  | colon | compare .equal => true
  | _ => false

/-- A colon asks for containment of colors and mana and for equality of everything else. -/
def comparison (keyword : Keyword) : Operator → Comparison
  | compare c => c
  | colon =>
    match keyword with
    | .colors | .mana => .atLeast
    | _ => .equal

end Operator

end CardCatalog.Query
