import CardCatalog.Text.Blank
import CardCatalog.Text.LetterCase

/-!
Mana costs as written, in braces (`{2}{W}{U}`), bare (`2wu`) or mixed. Symbols are read without
regard to case, and the halves of a hybrid symbol are put in order, so that two spellings of a
cost have the same symbols. Costs are compared by their total and by containment of symbols,
where generic mana counts as that many single pips.
-/

set_option autoImplicit false

namespace CardCatalog.Mana

/-- One symbol from the content of a pair of braces. -/
def normalize (inner : List Char) : String :=
  let low := Text.lowerChars [] (Text.trimChars inner)
  if '/' ∈ low then
    let halves := (Text.splitOn '/' low).map String.ofList
    "/".intercalate (halves.mergeSort (fun a b => decide (a ≤ b)))
  else String.ofList low

/-- The symbols of a cost: what stands in braces is one symbol; outside braces a run of digits is
one symbol, every letter is its own symbol and anything else is passed over. -/
def symbolsOf : List Char → List String
  | [] => []
  | c :: rest =>
    if c = '{' then
      -- A brace that is never closed holds the rest of the text.
      let inner := rest.takeWhile (· != '}')
      let after := (rest.dropWhile (· != '}')).drop 1
      if Text.trimChars inner = [] then symbolsOf after
      else normalize inner :: symbolsOf after
    else if c.isDigit then
      String.ofList (c :: rest.takeWhile Char.isDigit) :: symbolsOf (rest.dropWhile Char.isDigit)
    else if Text.isAlphabetic c then String.ofList (Text.lowerChar c) :: symbolsOf rest
    else symbolsOf rest
termination_by cs => cs.length
decreasing_by
  all_goals
    have h₁ := (List.dropWhile_suffix (l := rest) (· != '}')).length_le
    have h₂ := (List.dropWhile_suffix (l := rest) Char.isDigit).length_le
    simp only [List.length_cons, List.length_drop]
    omega

def symbols (cost : String) : List String :=
  symbolsOf cost.toList

/-- The largest amount that one generic symbol can stand for. -/
def maxGeneric : Nat := Nat.pow 2 32 - 1

/-- The amount of a symbol that is a run of digits; one that is too large is no amount. -/
def genericAmount? (symbol : String) : Option Nat :=
  let cs := symbol.toList
  if cs ≠ [] ∧ cs.all Char.isDigit then
    let n := Nat.ofDigitChars 10 cs 0
    if n ≤ maxGeneric then some n else none
  else none

/-- What one symbol adds to the total: nothing for `x`, the amount of a generic symbol, the
generic half of a hybrid one, and one for any other. -/
def symbolValue (symbol : String) : Nat :=
  if symbol = "x" then 0
  else
    match genericAmount? symbol with
    | some n => n
    | none =>
      match Text.splitOn '/' symbol.toList with
      | left :: _ :: _ => (genericAmount? (String.ofList left)).getD 1
      | _ => 1

/-- The largest total that is told apart. -/
def maxTotal : Nat := Nat.pow 2 63 - 1

/-- The converted mana cost; a missing cost is nothing. -/
def total (cost : Option String) : Nat :=
  match cost with
  | none => 0
  | some cost => min maxTotal (((symbols cost).map symbolValue).foldr (· + ·) 0)

/-- The kind of pip that a symbol stands for, and how many of it. -/
def pip (symbol : String) : String × Nat :=
  match genericAmount? symbol with
  | some n => ("1", n)
  | none => (symbol, 1)

def pips (cost : String) : List (String × Nat) :=
  ((symbols cost).map pip).filter (·.2 ≠ 0)

/-- The largest number of equal pips that is told apart. -/
def maxPips : Nat := Nat.pow 2 64 - 1

def countPips (ps : List (String × Nat)) (kind : String) : Nat :=
  min maxPips (((ps.filter (·.1 = kind)).map (·.2)).foldr (· + ·) 0)

/-- Whether the first cost has every pip of the second one. Anything contains an empty or missing
cost, and an empty or missing cost contains no other. -/
def contains (a b : Option String) : Bool :=
  let a := a.getD ""
  let b := b.getD ""
  if b = "" then true
  else if a = "" then false
  else
    let stock := pips a
    let need := pips b
    need.all fun (kind, _) => countPips need kind ≤ countPips stock kind

end CardCatalog.Mana
