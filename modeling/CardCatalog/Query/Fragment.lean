import CardCatalog.Card.Layout
import CardCatalog.Number.Written
import CardCatalog.Text.Quoted

/-!
Conditions as SQL text with a placeholder for every value, next to the values in the order of
their placeholders. The operations join texts and values together, so that the two never come
apart; none of them adds parentheses except `group`.
-/

set_option autoImplicit false

namespace CardCatalog.Query

/-- A value bound to one placeholder. -/
inductive Param where
  | text (s : String)
  | int (n : Int)
  | real (x : Float)

def Param.render : Param → String
  | text s => Text.quoted s
  | int n => toString n
  | real x => Number.plainText x

/-- Counts the placeholders of a text that starts inside or outside a literal in single quotes. -/
def countPlaceholdersFrom (inLiteral : Bool) : List Char → Nat
  | [] => 0
  | c :: rest =>
    if c = '\'' then countPlaceholdersFrom (!inLiteral) rest
    else if c = '?' && !inLiteral then 1 + countPlaceholdersFrom inLiteral rest
    else countPlaceholdersFrom inLiteral rest

def countPlaceholders (sql : String) : Nat :=
  countPlaceholdersFrom false sql.toList

structure Fragment where
  sql : String
  params : List Param

namespace Fragment

/-- The fragment of a query without any term. -/
def empty : Fragment := ⟨"", []⟩

def isEmpty (f : Fragment) : Bool :=
  f.sql.isEmpty

def placeholders (f : Fragment) : Nat :=
  countPlaceholders f.sql

/-- A condition whose every placeholder binds the same value. -/
def ofValue (sql : String) (value : Param) : Fragment :=
  ⟨sql, List.replicate (countPlaceholders sql) value⟩

def join (glue : String) (f g : Fragment) : Fragment :=
  ⟨f.sql ++ " " ++ glue ++ " " ++ g.sql, f.params ++ g.params⟩

def and (f g : Fragment) : Fragment :=
  join "AND" f g

def or (f g : Fragment) : Fragment :=
  join "OR" f g

def negate (f : Fragment) : Fragment :=
  ⟨"NOT " ++ f.sql, f.params⟩

def group (f : Fragment) : Fragment :=
  ⟨"( " ++ f.sql ++ " )", f.params⟩

end Fragment

/-- Which rows are other faces of a card. Side "a" is always the primary face. The meld side "b"
is a card of its own, so only the melded side "c" is another face there. Old split rows carry no
side; their first named half is the primary one. -/
def siblingFaceSql : String :=
  "((face.layout != 'meld' AND face.side != 'a') " ++
  "OR (face.layout = 'meld' AND face.side != 'a' AND face.side != 'b') " ++
  "OR (face.side IS NULL AND face.layout = 'split' " ++
  "AND face.faceName != facename_element(face.name, 0)))"

/-- The names of layouts as a list of SQL literals. -/
def layoutListSql (layouts : List Layout) : String :=
  ",".intercalate (layouts.map fun l => "'" ++ l.name ++ "'")

namespace Fragment

/-- Holds of a card whose primary face satisfies `primary`. -/
def onCard (primary : Fragment) : Fragment :=
  primary.group

/-- Holds of a card whose primary face satisfies `primary` or, if its layout is one of
`layouts`, one of whose other faces satisfies `alternate`. -/
def onFaces (primary alternate : Fragment) (layouts : List Layout) : Fragment where
  sql :=
    "( ( " ++ primary.sql ++ " ) OR ( cards.otherFaceIds IS NOT NULL AND cards.layout IN (" ++
    layoutListSql layouts ++ ") AND EXISTS (SELECT 1 FROM cards AS face " ++
    "WHERE csv_in(cards.otherFaceIds, face.uuid) AND " ++ siblingFaceSql ++
    " AND ( " ++ alternate.sql ++ " )) ) )"
  params := primary.params ++ alternate.params

end Fragment

end CardCatalog.Query
