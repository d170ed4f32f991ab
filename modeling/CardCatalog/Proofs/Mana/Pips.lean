import Mathlib
import CardCatalog.Mana
import CardCatalog.Proofs.Text.Folding

/-!
Costs as counted pips. Main statements: costs that differ in the case of ASCII letters have the
same symbols; one cost contains another if it has as many pips of every kind; and a total is the
sum of what all pips weigh, as far as totals are told apart.
-/

set_option autoImplicit false

namespace CardCatalog.Mana

/-! ## Costs up to case -/

theorem normalize_map_toLower (inner : List Char) :
    normalize (inner.map Char.toLower) = normalize inner := by
  have low := Text.lowerChars_map_toLower [] (Text.trimChars inner)
  rw [List.map_nil] at low
  simp only [normalize, Text.trimChars_map_toLower, low]

section

variable {c : Char} (rest : List Char)

theorem symbolsOf_brace :
    symbolsOf ('{' :: rest) =
      let inner := rest.takeWhile (· != '}')
      let after := (rest.dropWhile (· != '}')).drop 1
      if Text.trimChars inner = [] then symbolsOf after
      else normalize inner :: symbolsOf after := by
  rw [symbolsOf, if_pos rfl]

theorem symbolsOf_digit (digit : c.isDigit = true) :
    symbolsOf (c :: rest) =
      String.ofList (c :: rest.takeWhile Char.isDigit) ::
        symbolsOf (rest.dropWhile Char.isDigit) := by
  have other : c ≠ '{' := by
    rintro rfl
    exact absurd digit (by decide)
  rw [symbolsOf, if_neg other, if_pos digit]

theorem symbolsOf_letter (other : c ≠ '{') (digit : ¬ c.isDigit = true)
    (letter : Text.isAlphabetic c = true) :
    symbolsOf (c :: rest) = String.ofList (Text.lowerChar c) :: symbolsOf rest := by
  rw [symbolsOf, if_neg other, if_neg digit, if_pos letter]

theorem symbolsOf_passed (other : c ≠ '{') (digit : ¬ c.isDigit = true)
    (letter : ¬ Text.isAlphabetic c = true) : symbolsOf (c :: rest) = symbolsOf rest := by
  rw [symbolsOf, if_neg other, if_neg digit, if_neg letter]

end

theorem symbolsOf_brace_map_toLower (rest : List Char) :
    symbolsOf (('{' :: rest).map Char.toLower) =
      let inner := rest.takeWhile (· != '}')
      let after := (rest.dropWhile (· != '}')).drop 1
      if Text.trimChars inner = [] then symbolsOf (after.map Char.toLower)
      else normalize inner :: symbolsOf (after.map Char.toLower) := by
  have closing (c : Char) : (c.toLower != '}') = (c != '}') := by
    rw [bne, bne, Bool.not_inj_iff, Bool.eq_iff_iff, beq_iff_eq, beq_iff_eq]
    exact Text.toLower_eq_iff (by decide) c
  have inner := Text.takeWhile_map_toLower (p := (· != '}')) closing rest
  have after := Text.dropWhile_map_toLower (p := (· != '}')) closing rest
  rw [List.map_cons, show Char.toLower '{' = '{' from rfl, symbolsOf_brace]
  simp only [inner, after, Text.trimChars_map_toLower, List.map_eq_nil_iff,
    normalize_map_toLower, List.map_drop]

theorem symbolsOf_map_toLower (cs : List Char) :
    symbolsOf (cs.map Char.toLower) = symbolsOf cs := by
  have opening (c : Char) : c.toLower = '{' ↔ c = '{' := Text.toLower_eq_iff (by decide) c
  induction cs using symbolsOf.induct with
  | case1 => rfl
  | case2 rest inner after blank ih =>
    rw [symbolsOf_brace_map_toLower, symbolsOf_brace]
    exact (if_pos blank).trans (ih.trans (if_pos blank).symm)
  | case3 rest inner after symbol ih =>
    rw [symbolsOf_brace_map_toLower, symbolsOf_brace]
    exact (if_neg symbol).trans ((congrArg _ ih).trans (if_neg symbol).symm)
  | case4 c rest other digit ih =>
    rw [List.map_cons, Text.toLower_of_isDigit digit, symbolsOf_digit _ digit,
      symbolsOf_digit _ digit, Text.takeWhile_isDigit_map_toLower,
      Text.dropWhile_map_toLower Text.isDigit_toLower, ih]
  | case5 c rest other digit letter ih =>
    rw [List.map_cons, symbolsOf_letter _ ((opening c).not.2 other) (by simpa using digit)
      (by simpa using letter), symbolsOf_letter _ other digit letter, Text.lowerChar_toLower, ih]
  | case6 c rest other digit letter ih =>
    rw [List.map_cons, symbolsOf_passed _ ((opening c).not.2 other) (by simpa using digit)
      (by simpa using letter), symbolsOf_passed _ other digit letter, ih]

theorem symbols_fold (cost : String) : symbols (Text.fold cost) = symbols cost := by
  rw [symbols, Text.toList_fold, symbolsOf_map_toLower, symbols]

theorem pips_fold (cost : String) : pips (Text.fold cost) = pips cost := by
  rw [pips, symbols_fold, pips]

theorem total_fold (cost : String) : total (some (Text.fold cost)) = total (some cost) := by
  simp only [total, symbols_fold]

/-! ## Missing and empty costs -/

theorem total_getD (column : Option String) : total column = total (some (column.getD "")) := by
  cases column with
  | none => simp [total, symbols, symbolsOf]
  | some cost => rfl

theorem ne_empty_of_symbols {value : String} (cost : symbols value ≠ []) : value ≠ "" := by
  rintro rfl
  exact cost (by simp [symbols, symbolsOf])

/-! ## Counting pips -/

def amount (ps : List (String × Nat)) (kind : String) : Nat :=
  ((ps.filter (·.1 = kind)).map (·.2)).sum

/-- What all pips together add to a total. -/
def worth (ps : List (String × Nat)) : Nat :=
  (ps.map fun p => p.2 * symbolValue p.1).sum

/-- How many pips of a kind a cost has, as far as that is told apart. -/
def pipCount (cost kind : String) : Nat :=
  countPips (pips cost) kind

/-- Whether the first cost has every pip of the second one. -/
def Covers (a b : String) : Prop :=
  ∀ kind, pipCount b kind ≤ pipCount a kind

theorem countPips_eq (ps : List (String × Nat)) (kind : String) :
    countPips ps kind = min maxPips (amount ps kind) := rfl

theorem amount_cons (p : String × Nat) (ps : List (String × Nat)) (kind : String) :
    amount (p :: ps) kind = (if p.1 = kind then p.2 else 0) + amount ps kind := by
  by_cases same : p.1 = kind <;> simp [amount, same]

theorem amount_eq_zero {ps : List (String × Nat)} {kind : String}
    (absent : kind ∉ ps.map Prod.fst) : amount ps kind = 0 := by
  induction ps with
  | nil => rfl
  | cons p ps ih =>
    simp only [List.map_cons, List.mem_cons, not_or] at absent
    rw [amount_cons, if_neg (Ne.symm absent.1), ih absent.2]

theorem covers_fold {a b : String} : Covers (Text.fold a) (Text.fold b) ↔ Covers a b := by
  simp only [Covers, pipCount, pips_fold]

theorem covers_empty (a : String) : Covers a "" := by
  intro kind
  have none : pipCount "" kind = 0 := by
    rw [pipCount, show pips "" = [] by simp [pips, symbols, symbolsOf]]
    rfl
  omega

theorem contains_iff (a b : String) : contains (some a) (some b) = true ↔
    b = "" ∨ a ≠ "" ∧ Covers a b := by
  have everywhere : ((pips b).all fun p =>
      countPips (pips b) p.1 ≤ countPips (pips a) p.1) = true ↔ Covers a b := by
    simp only [List.all_eq_true, decide_eq_true_eq, Covers]
    constructor
    next =>
      intro enough kind
      by_cases member : kind ∈ (pips b).map Prod.fst
      next =>
        obtain ⟨p, listed, rfl⟩ := List.mem_map.1 member
        exact enough p listed
      next => simp [pipCount, countPips_eq, amount_eq_zero member]
    next => exact fun enough p _ => enough p.1
  unfold contains
  by_cases none : b = ""
  next => simp [none]
  next =>
    by_cases empty : a = ""
    next => simp [none, empty]
    next => simpa only [Option.getD_some, none, empty, if_false, false_or, ne_eq,
      not_false_eq_true, true_and] using everywhere

theorem contains_iff_getD (a b : Option String) : contains a b = true ↔
    b.getD "" = "" ∨ a.getD "" ≠ "" ∧ Covers (a.getD "") (b.getD "") := by
  have given : contains a b = contains (some (a.getD "")) (some (b.getD "")) := by
    cases a <;> cases b <;> rfl
  rw [given, contains_iff]

/-- Containment up to case, where a missing cost is an empty one. -/
theorem contains_fold (a b : Option String) :
    contains (a.map Text.fold) (b.map Text.fold) = true ↔
      b.getD "" = "" ∨ a.getD "" ≠ "" ∧ Covers (a.getD "") (b.getD "") := by
  rw [contains_iff_getD, Text.getD_map_fold, Text.getD_map_fold, covers_fold,
    Text.fold_eq_empty, Ne, Text.fold_eq_empty]

/-! ## Totals as sums over kinds -/

theorem genericAmount?_x : genericAmount? "x" = none := by decide

theorem symbolValue_pip (symbol : String) :
    (pip symbol).2 * symbolValue (pip symbol).1 = symbolValue symbol := by
  unfold pip
  cases generic : genericAmount? symbol with
  | none => exact Nat.one_mul _
  | some n =>
    have other : symbol ≠ "x" := by
      rintro rfl
      rw [genericAmount?_x] at generic
      cases generic
    have one : symbolValue "1" = 1 := by decide
    have value : symbolValue symbol = n := by simp only [symbolValue, other, if_false, generic]
    rw [one, value, Nat.mul_one]

theorem worth_pips (cost : String) :
    worth (pips cost) = ((symbols cost).map symbolValue).sum := by
  unfold pips
  induction symbols cost with
  | nil => rfl
  | cons symbol rest ih =>
    rw [List.map_cons, List.map_cons, List.sum_cons, ← ih, ← symbolValue_pip symbol]
    by_cases zero : (pip symbol).2 = 0 <;> simp [zero, worth]

theorem total_eq (cost : String) : total (some cost) = min maxTotal (worth (pips cost)) := by
  rw [worth_pips]
  rfl

theorem worth_eq_sum (ps : List (String × Nat)) (kinds : Finset String)
    (all : ∀ p ∈ ps, p.1 ∈ kinds) :
    worth ps = ∑ kind ∈ kinds, amount ps kind * symbolValue kind := by
  induction ps with
  | nil => simp [worth, amount]
  | cons p ps ih =>
    have member : p.1 ∈ kinds := all p List.mem_cons_self
    have rest := ih fun q listed => all q (List.mem_cons_of_mem p listed)
    calc worth (p :: ps) = p.2 * symbolValue p.1 + worth ps := by simp [worth]
      _ = ∑ kind ∈ kinds, ((if p.1 = kind then p.2 else 0) + amount ps kind) *
            symbolValue kind := by
          simp only [Nat.add_mul, Finset.sum_add_distrib, ite_mul, Nat.zero_mul,
            Finset.sum_ite_eq, if_pos member, rest]
      _ = _ := by simp only [amount_cons]

theorem amount_le_worth (ps : List (String × Nat)) {kind : String}
    (weighs : symbolValue kind ≠ 0) : amount ps kind ≤ worth ps := by
  induction ps with
  | nil => exact Nat.le_refl 0
  | cons p ps ih =>
    have first : (if p.1 = kind then p.2 else 0) ≤ p.2 * symbolValue p.1 := by
      by_cases same : p.1 = kind
      next =>
        rw [if_pos same, same]
        exact Nat.le_mul_of_pos_right _ (Nat.pos_of_ne_zero weighs)
      next => simp [same]
    have sum : worth (p :: ps) = p.2 * symbolValue p.1 + worth ps := by simp [worth]
    rw [amount_cons, sum]
    exact Nat.add_le_add first ih

section

variable {a b : String} (uncapped : total (some a) < maxTotal)

include uncapped

theorem pipCount_eq_amount {kind : String} (weighs : symbolValue kind ≠ 0) :
    pipCount a kind = amount (pips a) kind := by
  have bound := amount_le_worth (pips a) weighs
  have caps : maxTotal < maxPips := by decide
  rw [total_eq] at uncapped
  rw [pipCount, countPips_eq]
  omega

theorem total_eq_sum {kinds : Finset String} (all : ∀ p ∈ pips a, p.1 ∈ kinds) :
    total (some a) = ∑ kind ∈ kinds, pipCount a kind * symbolValue kind := by
  -- The count of a kind that weighs nothing may be capped, but it adds nothing.
  have counted (kind : String) :
      pipCount a kind * symbolValue kind = amount (pips a) kind * symbolValue kind := by
    by_cases weighs : symbolValue kind = 0
    next => rw [weighs, Nat.mul_zero, Nat.mul_zero]
    next => rw [pipCount_eq_amount uncapped weighs]
  have sum := worth_eq_sum (pips a) kinds all
  simp only [counted, ← sum]
  rw [total_eq] at *
  omega

theorem symbolValue_eq_zero_of_lt (same : total (some a) = total (some b)) (covers : Covers a b)
    {kind : String} (more : pipCount b kind < pipCount a kind) : symbolValue kind = 0 := by
  -- Kind by kind the one total is at least the other, so a heavy surplus would make it more.
  by_contra weighs
  let kinds := insert kind ((pips a ++ pips b).map Prod.fst).toFinset
  have all (p : String × Nat) (listed : p ∈ pips a ++ pips b) : p.1 ∈ kinds :=
    Finset.mem_insert_of_mem (List.mem_toFinset.2 (List.mem_map_of_mem listed))
  have totalA := total_eq_sum uncapped fun p listed => all p (List.mem_append_left _ listed)
  have totalB := total_eq_sum (same ▸ uncapped) fun p listed =>
    all p (List.mem_append_right _ listed)
  have less : ∑ k ∈ kinds, pipCount b k * symbolValue k <
      ∑ k ∈ kinds, pipCount a k * symbolValue k := by
    refine Finset.sum_lt_sum (fun k _ => Nat.mul_le_mul_right _ (covers k)) ⟨kind, ?_, ?_⟩
    next => exact Finset.mem_insert_self kind _
    next => exact Nat.mul_lt_mul_of_pos_right more (Nat.pos_of_ne_zero weighs)
  omega

end

end CardCatalog.Mana
