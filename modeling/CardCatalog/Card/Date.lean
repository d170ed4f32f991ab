import CardCatalog.Number.Written
import CardCatalog.Text.Blank

/-!
Calendar dates and their text, year, month and day with hyphens between them. Years are written
with four digits; a year outside those has a sign.
-/

set_option autoImplicit false

namespace CardCatalog

def isLeapYear (year : Int) : Bool :=
  year % 4 = 0 && (year % 100 ≠ 0 || year % 400 = 0)

def daysInMonth (year : Int) (month : Nat) : Nat :=
  if month = 2 then (if isLeapYear year then 29 else 28)
  else if month = 4 || month = 6 || month = 9 || month = 11 then 30
  else 31

/-- The years that dates can have. -/
def firstYear : Int := -262143

def lastYear : Int := 262142

/-- A day of the calendar. -/
structure Date where
  year : Int
  month : Nat
  day : Nat
  valid : firstYear ≤ year ∧ year ≤ lastYear ∧ 1 ≤ month ∧ month ≤ 12 ∧
    1 ≤ day ∧ day ≤ daysInMonth year month
  deriving DecidableEq

namespace Date

def ofParts? (year : Int) (month day : Nat) : Option Date :=
  if h : firstYear ≤ year ∧ year ≤ lastYear ∧ 1 ≤ month ∧ month ≤ 12 ∧
      1 ≤ day ∧ day ≤ daysInMonth year month then
    some ⟨year, month, day, h⟩
  else none

/-- At least `count` digits. -/
def padded (count n : Nat) : List Char :=
  let digits := Number.decimalDigits n
  Number.zeros (count - digits.length) ++ digits

def yearChars (year : Int) : List Char :=
  if year < 0 then '-' :: padded 4 year.natAbs
  else if 9999 < year then '+' :: padded 4 year.natAbs
  else padded 4 year.natAbs

def chars (d : Date) : List Char :=
  yearChars d.year ++ '-' :: padded 2 d.month ++ '-' :: padded 2 d.day

def text (d : Date) : String :=
  String.ofList d.chars

/-- A number of at least one and at most `limit` digits after white space, and what follows. -/
def takeNumber? (limit : Nat) (cs : List Char) : Option (Nat × List Char) :=
  let cs := cs.dropWhile Text.isBlank
  let digits := (cs.take limit).takeWhile Char.isDigit
  if digits = [] then none else some (Nat.ofDigitChars 10 digits 0, cs.drop digits.length)

/-- A year: four digits at most, or a sign and any number of digits. -/
def takeYear? (cs : List Char) : Option (Int × List Char) :=
  match cs.dropWhile Text.isBlank with
  | '-' :: rest =>
    if (rest.head?.map Char.isDigit).getD false then
      (takeNumber? rest.length rest).map fun (n, rest) => (-(n : Int), rest)
    else none
  | '+' :: rest =>
    if (rest.head?.map Char.isDigit).getD false then
      (takeNumber? rest.length rest).map fun (n, rest) => ((n : Int), rest)
    else none
  | cs => (takeNumber? 4 cs).map fun (n, rest) => ((n : Int), rest)

def takeHyphen? (cs : List Char) : Option (List Char) :=
  match cs.dropWhile Text.isBlank with
  | '-' :: rest => some rest
  | _ => none

/-- The date that a text names; white space may stand around its parts. -/
def ofText? (s : String) : Option Date := do
  let (year, rest) ← takeYear? s.toList
  let rest ← takeHyphen? rest
  let (month, rest) ← takeNumber? 2 rest
  let rest ← takeHyphen? rest
  let (day, rest) ← takeNumber? 2 rest
  if rest.all Text.isBlank then ofParts? year month day else none

/-- Whether a date is one of those that conditions can count with: from the 25th of November of
the year -4713, the first full day of the Julian day count, up to the year 9999. -/
def isCounted (d : Date) : Bool :=
  (-4713 < d.year || (d.year = -4713 && (d.month = 12 || (d.month = 11 && 25 ≤ d.day)))) &&
    d.year ≤ 9999

def storedYear? (d : Date) : Option Int :=
  if d.isCounted then some d.year else none

end Date

end CardCatalog
