import Mathlib
import CardCatalog.Card.Date

/-!
Dates read back from their text. Main statement: the text of a date names that date, whatever its
year.
-/

set_option autoImplicit false

namespace CardCatalog.Date

theorem isBlank_of_isDigit {c : Char} (digit : c.isDigit = true) : Text.isBlank c = false := by
  have bounds : 48 ≤ c.toNat ∧ c.toNat ≤ 57 := Char.isDigit_iff_toNat.1 digit
  simp [Text.isBlank, Text.inRanges, Text.blankRanges]
  omega

theorem ofDigitChars_padded (count n : Nat) : Nat.ofDigitChars 10 (padded count n) 0 = n := by
  simp only [padded, Number.decimalDigits, Number.zeros, Nat.ofDigitChars_append,
    Nat.ofDigitChars_replicate_zero, Nat.mul_zero]
  exact Nat.ofDigitChars_toDigits (by decide) (by decide)

theorem padded_ne_nil (count n : Nat) : padded count n ≠ [] := by
  simp [padded, Number.decimalDigits, Nat.toDigits_ne_nil]

theorem isDigit_of_mem_padded {count n : Nat} {c : Char} (member : c ∈ padded count n) :
    c.isDigit = true := by
  obtain zero | digit := List.mem_append.1 member
  next =>
    rw [List.eq_of_mem_replicate zero]
    rfl
  next => exact Nat.isDigit_of_mem_toDigits (by decide) (by decide) digit

theorem length_padded_le {count n : Nat} (positive : 0 < count) (small : n < 10 ^ count) :
    (padded count n).length ≤ count := by
  have digits := (Nat.length_toDigits_le_iff (by decide) positive).2 small
  simp only [padded, Number.decimalDigits, Number.zeros, List.length_append,
    List.length_replicate]
  omega

theorem exists_padded_cons (count n : Nat) :
    ∃ c more, padded count n = c :: more ∧ c.isDigit = true := by
  obtain ⟨c, more, start⟩ := List.exists_cons_of_ne_nil (padded_ne_nil count n)
  exact ⟨c, more, start, isDigit_of_mem_padded (by rw [start]; exact List.mem_cons_self)⟩

theorem dropWhile_isBlank_padded (count n : Nat) (rest : List Char) :
    (padded count n ++ rest).dropWhile Text.isBlank = padded count n ++ rest := by
  obtain ⟨c, more, start, digit⟩ := exists_padded_cons count n
  rw [start, List.cons_append, List.dropWhile_cons_of_neg (by simp [isBlank_of_isDigit digit])]

/-! ## Numbers and years at the front of a text -/

section

variable {rest : List Char} (stop : ∀ c ∈ rest.head?, c.isDigit = false)

include stop

theorem takeWhile_isDigit_take (limit : Nat) : (rest.take limit).takeWhile Char.isDigit = [] := by
  cases rest with
  | nil => simp
  | cons c tail =>
    cases limit with
    | zero => rfl
    | succ limit => simp [stop c rfl]

theorem takeNumber?_padded {limit : Nat} (count n : Nat)
    (fits : (padded count n).length ≤ limit) :
    takeNumber? limit (padded count n ++ rest) = some (n, rest) := by
  have taken : ((padded count n ++ rest).take limit).takeWhile Char.isDigit = padded count n := by
    rw [List.take_append, List.take_of_length_le fits,
      List.takeWhile_append_of_pos fun c member => isDigit_of_mem_padded member,
      takeWhile_isDigit_take stop, List.append_nil]
  simp only [takeNumber?, dropWhile_isBlank_padded, taken, padded_ne_nil, if_false,
    ofDigitChars_padded, List.drop_left]

theorem takeYear?_signed (n : Nat) :
    takeYear? ('-' :: padded 4 n ++ rest) = some (-(n : Int), rest) ∧
      takeYear? ('+' :: padded 4 n ++ rest) = some ((n : Int), rest) := by
  have visible (sign : Char) (shown : Text.isBlank sign = false) :
      (sign :: padded 4 n ++ rest).dropWhile Text.isBlank = sign :: (padded 4 n ++ rest) :=
    List.dropWhile_cons_of_neg (by simp [shown])
  have digit : ((padded 4 n ++ rest).head?.map Char.isDigit).getD false = true := by
    obtain ⟨c, more, start, digit⟩ := exists_padded_cons 4 n
    simp [start, digit]
  have number : takeNumber? (padded 4 n ++ rest).length (padded 4 n ++ rest) = some (n, rest) := by
    refine takeNumber?_padded stop 4 n ?_
    rw [List.length_append]
    exact Nat.le_add_right _ _
  constructor
  next =>
    simp only [takeYear?, visible '-' rfl, digit, if_true, number, Option.map_some]
  next =>
    simp only [takeYear?, visible '+' rfl, digit, if_true, number, Option.map_some]

theorem takeYear?_unsigned {n : Nat} (small : n < 10 ^ 4) :
    takeYear? (padded 4 n ++ rest) = some ((n : Int), rest) := by
  obtain ⟨c, more, start, digit⟩ := exists_padded_cons 4 n
  have unsigned {sign : Char} (other : sign.isDigit = false) (tail : List Char) :
      padded 4 n ++ rest ≠ sign :: tail := by
    rw [start]
    rintro ⟨⟩
    rw [other] at digit
    cases digit
  -- A year without a sign starts with a digit, so neither rule for signs applies.
  unfold takeYear?
  rw [dropWhile_isBlank_padded]
  split
  next sign => exact absurd sign (unsigned rfl _)
  next sign => exact absurd sign (unsigned rfl _)
  next =>
    have number := takeNumber?_padded stop 4 n (length_padded_le (by decide) small)
    simp only [number, Option.map_some]

theorem takeYear?_yearChars (year : Int) :
    takeYear? (yearChars year ++ rest) = some (year, rest) := by
  obtain ⟨negative, positive⟩ := takeYear?_signed stop year.natAbs
  unfold yearChars
  split_ifs with below above
  next =>
    rw [negative]
    congr
    omega
  next =>
    rw [positive]
    congr
    omega
  next =>
    rw [takeYear?_unsigned stop (by omega)]
    congr
    omega

end

theorem takeHyphen?_cons (rest : List Char) : takeHyphen? ('-' :: rest) = some rest := rfl

theorem ofParts?_self (d : Date) : ofParts? d.year d.month d.day = some d :=
  dif_pos d.valid

theorem month_lt (d : Date) : d.month < 100 := by
  have := d.valid
  omega

theorem day_lt (d : Date) : d.day < 100 := by
  have days : daysInMonth d.year d.month ≤ 31 := by
    unfold daysInMonth
    split_ifs <;> omega
  have := d.valid
  omega

theorem ofText?_text (d : Date) : ofText? d.text = some d := by
  have hyphen (rest : List Char) : ∀ c ∈ ('-' :: rest).head?, c.isDigit = false := by
    rintro c ⟨⟩
    rfl
  have month := takeNumber?_padded (hyphen (padded 2 d.day)) 2 d.month
    (length_padded_le (by decide) d.month_lt)
  have last : ∀ c ∈ ([] : List Char).head?, c.isDigit = false := by simp
  have day := takeNumber?_padded last 2 d.day (length_padded_le (by decide) d.day_lt)
  rw [List.append_nil] at day
  have year := takeYear?_yearChars (hyphen (padded 2 d.month ++ '-' :: padded 2 d.day)) d.year
  simp only [ofText?, text, chars, String.toList_ofList, List.append_assoc, List.cons_append, year,
    takeHyphen?_cons, month, day, bind, Option.bind_some, List.all_nil, if_true, ofParts?_self]

end CardCatalog.Date
