import CardCatalog.Proofs.Mana.Pips

/-!
Which costs have symbols. Main statement: a cost has a symbol exactly if there is a digit or letter
in it, or a brace that opens before something other than white space.
-/

set_option autoImplicit false

namespace CardCatalog

namespace Text

theorem forall_of_isBlank {p : Char → Prop}
    (each : ∀ range ∈ blankRanges, ∀ n < range.2 - range.1 + 1, p (Char.ofNat (range.1 + n)))
    {c : Char} (blank : isBlank c = true) : p c := by
  obtain ⟨range, member, within⟩ := List.any_eq_true.1 blank
  simp only [Bool.and_eq_true, decide_eq_true_eq] at within
  have held := each range member (c.toNat - range.1) (by omega)
  rwa [Nat.add_sub_cancel' within.1, Char.ofNat_toNat] at held

theorem trimChars_eq_nil_iff {cs : List Char} :
    trimChars cs = [] ↔ ∀ c ∈ cs, isBlank c = true := by
  have dropped (cs : List Char) : cs.dropWhile isBlank = [] ↔ ∀ c ∈ cs, isBlank c = true :=
    List.dropWhile_eq_nil_iff
  rw [trimChars, trimEnd, List.reverse_eq_nil_iff, dropped]
  simp only [List.mem_reverse]
  constructor
  next =>
    intro blank
    rw [← dropped]
    cases left : cs.dropWhile isBlank with
    | nil => rfl
    | cons c rest =>
      have visible := List.head?_dropWhile_not isBlank cs
      rw [left] at blank visible
      simp [blank c List.mem_cons_self] at visible
  next => exact fun blank c member => blank c ((List.dropWhile_sublist _).subset member)

end Text

namespace Mana

/-- There is a digit or letter in the text, or a brace opens and something other than white space
stands behind it, with no closing brace between. -/
def HasSymbol (cs : List Char) : Prop :=
  (∃ c ∈ cs, c.isDigit = true ∨ Text.isAlphabetic c = true) ∨
    ∃ inner, '{' :: inner <:+ cs ∧ ∃ c ∈ inner.takeWhile (· != '}'), Text.isBlank c = false

/-- A character that is no symbol and opens none. -/
def IsPassed (c : Char) : Prop :=
  c ≠ '{' ∧ c.isDigit = false ∧ Text.isAlphabetic c = false

theorem isPassed_of_isBlank {c : Char} (blank : Text.isBlank c = true) : IsPassed c :=
  Text.forall_of_isBlank (p := IsPassed) (by unfold IsPassed; decide +kernel) blank

section

variable {c : Char} {cs : List Char}

theorem hasSymbol_cons_of_passed (passed : IsPassed c) : HasSymbol (c :: cs) ↔ HasSymbol cs := by
  obtain ⟨other, digit, letter⟩ := passed
  simp [HasSymbol, List.suffix_cons_iff, digit, letter, Ne.symm other]

theorem hasSymbol_append_of_passed {front : List Char} (passed : ∀ c ∈ front, IsPassed c) :
    HasSymbol (front ++ cs) ↔ HasSymbol cs := by
  induction front with
  | nil => rfl
  | cons c front ih =>
    obtain ⟨first, others⟩ := List.forall_mem_cons.1 passed
    rw [List.cons_append, hasSymbol_cons_of_passed first, ih others]

theorem hasSymbol_brace : HasSymbol ('{' :: cs) ↔
    (∃ c ∈ cs.takeWhile (· != '}'), Text.isBlank c = false) ∨ HasSymbol cs := by
  have digit : Char.isDigit '{' = false := by decide
  have letter : Text.isAlphabetic '{' = false := by decide
  simp only [HasSymbol, List.suffix_cons_iff, List.cons.injEq, true_and, List.mem_cons,
    digit, letter, Bool.false_eq_true, or_self, false_or, or_and_right, exists_or, exists_eq_left]
  exact or_left_comm

/-- What stands in braces is passed over if it is all blank. -/
theorem hasSymbol_blank_brace (blank : ∀ c ∈ cs.takeWhile (· != '}'), Text.isBlank c = true) :
    HasSymbol ('{' :: cs) ↔ HasSymbol ((cs.dropWhile (· != '}')).drop 1) := by
  have inner : ∀ c ∈ cs.takeWhile (· != '}'), IsPassed c := fun c member =>
    isPassed_of_isBlank (blank c member)
  have none : ¬ ∃ c ∈ cs.takeWhile (· != '}'), Text.isBlank c = false := by simpa using blank
  have parts : HasSymbol (cs.takeWhile (· != '}') ++ cs.dropWhile (· != '}')) ↔
      HasSymbol (cs.dropWhile (· != '}')) := hasSymbol_append_of_passed inner
  rw [List.takeWhile_append_dropWhile] at parts
  rw [hasSymbol_brace, or_iff_right none, parts]
  cases after : cs.dropWhile (· != '}') with
  | nil => rfl
  | cons c rest =>
    have closing : c = '}' := by
      have stop := List.head?_dropWhile_not (· != '}') cs
      simpa [after] using stop
    rw [closing, hasSymbol_cons_of_passed (by unfold IsPassed; decide)]
    rfl

end

theorem symbolsOf_ne_nil_iff (cs : List Char) : symbolsOf cs ≠ [] ↔ HasSymbol cs := by
  induction cs using symbolsOf.induct with
  | case1 => simp [symbolsOf, HasSymbol]
  | case2 rest inner after blank ih =>
    have passed : symbolsOf ('{' :: rest) = symbolsOf after := by
      rw [symbolsOf_brace]
      exact if_pos blank
    rw [passed, ih, hasSymbol_blank_brace (Text.trimChars_eq_nil_iff.1 blank)]
  | case3 rest inner after symbol ih =>
    have read : symbolsOf ('{' :: rest) = normalize inner :: symbolsOf after := by
      rw [symbolsOf_brace]
      exact if_neg symbol
    have visible : ∃ c ∈ inner, Text.isBlank c = false := by
      by_contra none
      exact symbol (Text.trimChars_eq_nil_iff.2 (by simpa using none))
    rw [read, hasSymbol_brace]
    exact ⟨fun _ => .inl visible, fun _ => List.cons_ne_nil _ _⟩
  | case4 c rest other digit ih =>
    rw [symbolsOf_digit _ digit]
    simp [HasSymbol, digit]
  | case5 c rest other digit letter ih =>
    rw [symbolsOf_letter _ other digit letter]
    simp [HasSymbol, letter]
  | case6 c rest other digit letter ih =>
    rw [symbolsOf_passed _ other digit letter, ih, hasSymbol_cons_of_passed]
    exact ⟨other, by simpa using digit, by simpa using letter⟩

end Mana

end CardCatalog
