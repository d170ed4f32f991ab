import CardCatalog.Proofs.Mana.Symbols
import CardCatalog.Query.Term

/-!
Which keyword terms are accepted. Main statement: a term stands exactly if its word spells a
keyword that allows the operator and the mark and takes the value, and of several checks that fail
the first one is reported.
-/

set_option autoImplicit false

namespace CardCatalog.Query

/-! ## Numbers -/

/-- One or more digits. -/
structure Digits (cs : List Char) : Prop where
  given : cs ≠ []
  digit : ∀ c ∈ cs, c.isDigit = true

/-- A whole number as it is written: digits, with a sign before them or without. -/
inductive WrittenInt : List Char → Int → Prop where
  | bare {ds : List Char} (digits : Digits ds) : WrittenInt ds (Nat.ofDigitChars 10 ds 0)
  | plus {ds : List Char} (digits : Digits ds) :
    WrittenInt ('+' :: ds) (Nat.ofDigitChars 10 ds 0)
  | minus {ds : List Char} (digits : Digits ds) :
    WrittenInt ('-' :: ds) (-(Nat.ofDigitChars 10 ds 0 : Int))

/-- An amount as it is written: digits, with a point and more digits behind them or without. -/
inductive WrittenAmount : List Char → Prop where
  | whole {ds : List Char} (digits : Digits ds) : WrittenAmount ds
  | places {ds ps : List Char} (digits : Digits ds) (places : Digits ps) :
    WrittenAmount (ds ++ '.' :: ps)

section

variable {cs ds : List Char} {n : Int}

theorem not_digits_cons {c : Char} (other : c.isDigit = false) : ¬ Digits (c :: cs) := by
  intro digits
  have digit := digits.digit c List.mem_cons_self
  rw [other] at digit
  cases digit

theorem writtenInt_minus_iff :
    WrittenInt ('-' :: ds) n ↔ Digits ds ∧ n = -(Nat.ofDigitChars 10 ds 0 : Int) := by
  constructor
  next =>
    rintro (digits | _ | digits)
    next => exact absurd digits (not_digits_cons (by decide))
    next => exact ⟨digits, rfl⟩
  next =>
    rintro ⟨digits, rfl⟩
    exact .minus digits

theorem writtenInt_plus_iff :
    WrittenInt ('+' :: ds) n ↔ Digits ds ∧ n = Nat.ofDigitChars 10 ds 0 := by
  constructor
  next =>
    rintro (digits | digits | _)
    next => exact absurd digits (not_digits_cons (by decide))
    next => exact ⟨digits, rfl⟩
  next =>
    rintro ⟨digits, rfl⟩
    exact .plus digits

theorem writtenInt_bare_iff (unsigned : ∀ rest, cs ≠ '-' :: rest ∧ cs ≠ '+' :: rest) :
    WrittenInt cs n ↔ Digits cs ∧ n = Nat.ofDigitChars 10 cs 0 := by
  constructor
  next =>
    rintro (digits | _ | _)
    next => exact ⟨digits, rfl⟩
    next => exact absurd rfl (unsigned _).2
    next => exact absurd rfl (unsigned _).1
  next =>
    rintro ⟨digits, rfl⟩
    exact .bare digits

theorem digits_iff : Digits ds ↔ ds ≠ [] ∧ ds.all Char.isDigit = true := by
  rw [List.all_eq_true]
  exact ⟨fun digits => ⟨digits.given, digits.digit⟩, fun ⟨given, digit⟩ => ⟨given, digit⟩⟩

end

theorem readInt?_eq_some_iff {s : String} {n : Int} : readInt? s = some n ↔
    WrittenInt s.toList n ∧ -2 ^ 63 ≤ n ∧ n < 2 ^ 63 := by
  have fits (m : Int) : (if -(Nat.pow 2 63 : Int) ≤ m ∧ m < Nat.pow 2 63 then some m else none) =
      some n ↔ n = m ∧ -2 ^ 63 ≤ n ∧ n < 2 ^ 63 := by
    have top : (Nat.pow 2 63 : Int) = 2 ^ 63 := rfl
    rw [top]
    split <;> grind
  unfold readInt?
  generalize s.toList = cs
  split
  next negative ds same =>
    have read : (WrittenInt cs n ↔ Digits ds ∧
        n = if negative = true then -(Nat.ofDigitChars 10 ds 0 : Int)
          else Nat.ofDigitChars 10 ds 0) := by
      split at same <;> cases same
      next => exact writtenInt_minus_iff
      next => exact writtenInt_plus_iff
      next minus plus => exact writtenInt_bare_iff fun rest => ⟨minus rest, plus rest⟩
    rw [read, digits_iff]
    split
    next digits => rw [fits, and_iff_right digits]
    next other => simp only [other, false_and, reduceCtorEq]

example : readInt? "-9223372036854775808" = some (-2 ^ 63) ∧
    readInt? "+9223372036854775808" = none := by decide

theorem writtenAmount_iff {cs : List Char} : WrittenAmount cs ↔
    cs.takeWhile Char.isDigit ≠ [] ∧ (cs.dropWhile Char.isDigit = [] ∨
      ∃ ps, cs.dropWhile Char.isDigit = '.' :: ps ∧ Digits ps) := by
  have point : ¬ Char.isDigit '.' = true := by decide
  constructor
  next =>
    rintro (digits | ⟨digits, places⟩)
    next =>
      rw [List.takeWhile_eq_self_iff.2 digits.digit]
      exact ⟨digits.given, .inl (List.dropWhile_eq_nil_iff.2 digits.digit)⟩
    next ds ps =>
      rw [List.takeWhile_append_of_pos digits.digit, List.dropWhile_append_of_pos digits.digit,
        List.takeWhile_cons_of_neg point, List.dropWhile_cons_of_neg point, List.append_nil]
      exact ⟨digits.given, .inr ⟨ps, rfl, places⟩⟩
  next =>
    rintro ⟨given, rest⟩
    have digits : Digits (cs.takeWhile Char.isDigit) :=
      ⟨given, fun c member => List.mem_takeWhile_imp member⟩
    rw [← List.takeWhile_append_dropWhile (p := Char.isDigit) (l := cs)]
    rcases rest with none | ⟨ps, same, places⟩
    next =>
      rw [none, List.append_nil]
      exact .whole digits
    next =>
      rw [same]
      exact .places digits places

theorem isSome_readAmount?_iff {s : String} :
    (readAmount? s).isSome = true ↔ WrittenAmount s.toList := by
  rw [writtenAmount_iff]
  unfold readAmount?
  dsimp only
  split
  next none => simp [none]
  next given =>
    rw [and_iff_right given]
    split
    next rest => simp [rest]
    next places rest =>
      simp only [rest, List.cons.injEq, true_and, exists_eq_left', digits_iff, reduceCtorEq,
        false_or]
      split <;> simp_all
    next given point =>
      simp only [Option.isSome_none, Bool.false_eq_true, false_iff, not_or]
      exact ⟨given, fun ⟨ps, same, _⟩ => point ps same⟩

/-! ## Letters and symbols -/

theorem isSome_readInt?_iff {s : String} : (readInt? s).isSome = true ↔
    ∃ n, WrittenInt s.toList n ∧ -2 ^ 63 ≤ n ∧ n < 2 ^ 63 := by
  simp only [Option.isSome_iff_exists, readInt?_eq_some_iff]

theorem isSome_readColors?_iff {s : String} :
    (readColors? s).isSome = true ↔ ∃ c ∈ s.toList, c.isAlpha = true := by
  unfold readColors?
  split
  next none => simpa using none
  next given =>
    obtain ⟨c, member⟩ := List.exists_mem_of_ne_nil _ given
    exact ⟨fun _ => ⟨c, List.mem_filter.1 member⟩, fun _ => rfl⟩

theorem isSome_readCost?_iff {s : String} :
    (readCost? s).isSome = true ↔ Mana.HasSymbol s.toList := by
  rw [← Mana.symbolsOf_ne_nil_iff]
  unfold readCost? Mana.symbols
  split
  next none => simp [none]
  next given => exact ⟨fun _ => given, fun _ => rfl⟩

/-! ## Keywords -/

namespace Keyword

/-- The words that spell a keyword. -/
def names (k : Keyword) : List String :=
  k.canonical ::
    match k with
    | legal => ["format", "f"]
    | type => ["t"]
    | colors => ["c"]
    | _ => []

def SpelledBy (k : Keyword) (word : String) : Prop :=
  ∃ name ∈ k.names, Text.sameFolded word name = true

/-- Every keyword is asked for by equality, and one that is measured by any comparison. -/
def Allows (k : Keyword) (operator : Operator) : Prop :=
  operator = .colon ∨ operator = .compare .equal ∨
    k ∈ [cmc, power, toughness, loyalty, year, price, colors, mana]

/-- Only names are asked for exactly. -/
def AllowsMark (k : Keyword) (exact : Bool) : Prop :=
  exact = false ∨ k = name

/-- The values that fit a keyword. -/
def Takes (k : Keyword) (value : String) : Prop :=
  match k with
  | cmc | power | toughness | loyalty | year =>
    ∃ n, WrittenInt value.toList n ∧ -2 ^ 63 ≤ n ∧ n < 2 ^ 63
  | price => WrittenAmount value.toList
  | colors => ∃ c ∈ value.toList, c.isAlpha = true
  | mana => Mana.HasSymbol value.toList
  | name | text | set | legal | rarity | layout | type => True

variable {k : Keyword} {word : String}

theorem mem_spellings_iff {name : String} : (name, k) ∈ spellings ↔ name ∈ k.names := by
  have listed : ∀ spelling ∈ spellings, spelling.1 ∈ spelling.2.names := by decide
  refine ⟨fun member => listed _ member, ?_⟩
  have all : ∀ name ∈ k.names, (name, k) ∈ spellings := by cases k <;> decide
  exact all name

theorem lookup_spellings_iff {name : String} :
    spellings.lookup name = some k ↔ name ∈ k.names := by
  rw [← mem_spellings_iff]
  have each : ∀ spelling ∈ spellings, spellings.lookup spelling.1 = some spelling.2 := by decide
  refine ⟨fun found => ?_, each (name, k)⟩
  obtain ⟨front, back, same, -⟩ := List.lookup_eq_some_iff.1 found
  exact same ▸ List.mem_append_right front List.mem_cons_self

theorem ofWord?_eq_some_iff : ofWord? word = some k ↔ k.SpelledBy word := by
  have folded : ∀ name ∈ k.names, Text.fold name = name := by cases k <;> decide
  rw [ofWord?, lookup_spellings_iff, SpelledBy]
  constructor
  next =>
    intro member
    refine ⟨_, member, (Text.sameFolded_iff _ _).2 (folded _ member).symm⟩
  next =>
    rintro ⟨name, member, same⟩
    rwa [(Text.sameFolded_iff _ _).1 same, folded name member]

theorem ofWord?_eq_none_iff : ofWord? word = none ↔ ∀ k : Keyword, ¬ k.SpelledBy word := by
  simp only [← ofWord?_eq_some_iff, Option.eq_none_iff_forall_ne_some, ne_eq]

theorem allows_iff {operator : Operator} :
    (!operator.isEquality && !k.acceptsComparison) = false ↔ k.Allows operator := by
  rcases operator with _ | c
  next => simp [Operator.isEquality, Allows]
  next => cases c <;> cases k <;> simp [Operator.isEquality, acceptsComparison, Allows]

theorem allowsMark_iff {exact : Bool} :
    (exact && !k.acceptsExact) = false ↔ k.AllowsMark exact := by
  cases exact <;> cases k <;> simp [acceptsExact, AllowsMark]

theorem isSome_term?_iff {rate : Float} {c : Comparison} {exact : Bool} {value : String} :
    (k.term? rate c exact value).isSome = true ↔ k.Takes value := by
  cases k with
  | name | text | set | legal | rarity | layout | type => simp [term?, Takes]
  | cmc | power | toughness | loyalty | year =>
    simp only [term?, Takes, Option.isSome_map, isSome_readInt?_iff]
  | price => simp only [term?, Takes, Option.isSome_map, isSome_readAmount?_iff]
  | colors => simp only [term?, Takes, Option.isSome_map, isSome_readColors?_iff]
  | mana => simp only [term?, Takes, Option.isSome_map, isSome_readCost?_iff]

end Keyword

/-! ## Keyword terms -/

/-- Why a keyword term does not stand: the first of the checks on the word, the operator, the mark
and the value that fails. -/
inductive Refused (word : String) (operator : Operator) (exact : Bool) (value : String) :
    QueryError → Prop where
  | word (unknown : ∀ k : Keyword, ¬ k.SpelledBy word) :
    Refused word operator exact value (.unknownKeyword word)
  | operator {k : Keyword} (spelled : k.SpelledBy word) (refuses : ¬ k.Allows operator) :
    Refused word operator exact value (.unsupportedOperator word operator.sign)
  | mark {k : Keyword} (spelled : k.SpelledBy word) (allowed : k.Allows operator)
    (refuses : ¬ k.AllowsMark exact) :
    Refused word operator exact value (.unsupportedOperator word (operator.sign ++ "!"))
  | value {k : Keyword} (spelled : k.SpelledBy word) (allowed : k.Allows operator)
    (marked : k.AllowsMark exact) (refuses : ¬ k.Takes value) :
    Refused word operator exact value (.invalidValue k.canonical value)

namespace Term

variable {word : String} {operator : Operator} {exact : Bool} {value : String}
  {k : Keyword} {t : Term} {e : QueryError}

theorem ofKeyword_of_refused (rate : Float) (refused : Refused word operator exact value e) :
    ofKeyword rate word operator exact value = .error e := by
  cases refused with
  | word unknown => simp only [ofKeyword, Keyword.ofWord?_eq_none_iff.2 unknown]
  | operator spelled refuses =>
    have fails := Bool.eq_true_of_not_eq_false (mt Keyword.allows_iff.1 refuses)
    simp only [ofKeyword, Keyword.ofWord?_eq_some_iff.2 spelled, fails, if_true]
  | mark spelled allowed refuses =>
    have passes := Keyword.allows_iff.2 allowed
    have fails := Bool.eq_true_of_not_eq_false (mt Keyword.allowsMark_iff.1 refuses)
    simp only [ofKeyword, Keyword.ofWord?_eq_some_iff.2 spelled, passes, fails, if_true,
      Bool.false_eq_true, if_false]
  | @value k spelled allowed marked refuses =>
    have passes := Keyword.allows_iff.2 allowed
    have unmarked := Keyword.allowsMark_iff.2 marked
    have none : k.term? rate (operator.comparison k) exact value = none := by
      rw [← Option.not_isSome_iff_eq_none, Keyword.isSome_term?_iff]
      exact refuses
    simp only [ofKeyword, Keyword.ofWord?_eq_some_iff.2 spelled, passes, unmarked, none,
      Bool.false_eq_true, if_false]

theorem exists_ofKeyword (rate : Float) (spelled : k.SpelledBy word) (allowed : k.Allows operator)
    (marked : k.AllowsMark exact) (takes : k.Takes value) :
    ∃ t, ofKeyword rate word operator exact value = .ok t := by
  have passes := Keyword.allows_iff.2 allowed
  have unmarked := Keyword.allowsMark_iff.2 marked
  have given : (k.term? rate (operator.comparison k) exact value).isSome = true :=
    Keyword.isSome_term?_iff.2 takes
  obtain ⟨t, read⟩ := Option.isSome_iff_exists.1 given
  refine ⟨t, ?_⟩
  simp only [ofKeyword, Keyword.ofWord?_eq_some_iff.2 spelled, passes, unmarked, read,
    Bool.false_eq_true, if_false]

theorem stands_or_refused (word : String) (operator : Operator) (exact : Bool) (value : String) :
    (∃ k : Keyword, k.SpelledBy word ∧ k.Allows operator ∧ k.AllowsMark exact ∧ k.Takes value) ∨
      ∃ e, Refused word operator exact value e := by
  by_cases known : ∃ k : Keyword, k.SpelledBy word
  next =>
    obtain ⟨k, spelled⟩ := known
    by_cases allowed : k.Allows operator
    next =>
      by_cases marked : k.AllowsMark exact
      next =>
        by_cases takes : k.Takes value
        next => exact .inl ⟨k, spelled, allowed, marked, takes⟩
        next => exact .inr ⟨_, .value spelled allowed marked takes⟩
      next => exact .inr ⟨_, .mark spelled allowed marked⟩
    next => exact .inr ⟨_, .operator spelled allowed⟩
  next => exact .inr ⟨_, .word (not_exists.1 known)⟩

/-- A keyword term stands exactly if its word spells a keyword in any case, the keyword allows the
operator and the mark, and it takes the value. Where it does not stand, the error is that of the
first of these checks that fails. -/
theorem ofKeyword_accepts (rate : Float) (word : String) (operator : Operator) (exact : Bool)
    (value : String) :
    ((∃ t, ofKeyword rate word operator exact value = .ok t) ↔ ∃ k : Keyword,
      k.SpelledBy word ∧ k.Allows operator ∧ k.AllowsMark exact ∧ k.Takes value) ∧
    ∀ e, ofKeyword rate word operator exact value = .error e ↔
      Refused word operator exact value e := by
  rcases stands_or_refused word operator exact value with
    ⟨k, spelled, allowed, marked, takes⟩ | ⟨first, refused⟩
  next =>
    obtain ⟨t, stands⟩ := exists_ofKeyword rate spelled allowed marked takes
    refine ⟨⟨fun _ => ⟨k, spelled, allowed, marked, takes⟩, fun _ => ⟨t, stands⟩⟩, fun e => ?_⟩
    refine ⟨fun fails => ?_, ofKeyword_of_refused rate⟩
    rw [stands] at fails
    cases fails
  next =>
    have error := ofKeyword_of_refused rate refused
    refine ⟨⟨?_, ?_⟩, fun e => ⟨fun fails => ?_, ofKeyword_of_refused rate⟩⟩
    next =>
      rintro ⟨t, stands⟩
      rw [error] at stands
      cases stands
    next =>
      rintro ⟨k, spelled, allowed, marked, takes⟩
      exact exists_ofKeyword rate spelled allowed marked takes
    next =>
      rw [error] at fails
      cases fails
      exact refused

end Term

end CardCatalog.Query
