import CardCatalog.Card.Date
import CardCatalog.Toml.Reader
import CardCatalog.Toml.Value

/-!
Dates and times of settings documents: a date, a time of the day, or both with a letter or a space
between them, and then perhaps the distance from universal time.
-/

set_option autoImplicit false

namespace CardCatalog.Toml

open Reader

def twoDigits (low high : Nat) : Reader Nat := do
  let n := numberOf 10 (← count Char.isDigit 2)
  guard (low ≤ n ∧ n ≤ high)
  return n

def day : Reader Unit := do
  let year := numberOf 10 (← count Char.isDigit 4)
  char '-'
  let month ← twoDigits 1 12
  char '-'
  discard (twoDigits 1 (daysInMonth year month))

/-- Hours, minutes and seconds, of which a minute may have one more than sixty; a fraction may
follow. -/
def timeOfDay : Reader Unit := do
  discard (twoDigits 0 23)
  char ':'
  discard (twoDigits 0 59)
  char ':'
  discard (twoDigits 0 60)
  if ← word? ['.'] then discard (run1 Char.isDigit)

/-- The distance from universal time, if it is given. -/
def offset? : Reader Unit := do
  match ← peek? with
  | some 'Z' | some 'z' => discard (one fun _ => true)
  | some '+' | some '-' =>
    discard (one fun _ => true)
    discard (twoDigits 0 23)
    char ':'
    discard (twoDigits 0 59)
  | _ => return

/-- Whether the next characters are a time: two digits and a colon. -/
def timeFollows : List Char → Bool
  | a :: b :: ':' :: _ => a.isDigit && b.isDigit
  | _ => false

def dayAndTime : Reader Unit := do
  day
  fun
    | c :: rest =>
      if (c == 'T' || c == 't' || c == ' ') && timeFollows rest then
        (do timeOfDay; offset?) rest
      else some ((), c :: rest)
    | [] => some ((), [])

def time : Reader Value := do
  dayAndTime <|> timeOfDay
  return .time

end CardCatalog.Toml
