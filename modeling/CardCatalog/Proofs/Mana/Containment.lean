import CardCatalog.Proofs.Mana.Pips
import CardCatalog.Proofs.Sql.SetComparison

/-!
Containment of mana costs as an order. Main statement: it is reflexive and transitive, and a cost
has at least the total of each cost that it contains, however large their amounts are; so a
comparison that asks for at least a cost asks for no more than containment.
-/

set_option autoImplicit false

namespace CardCatalog.Mana

open Query Sql

theorem Covers.trans {a b c : String} (first : Covers a b) (second : Covers b c) : Covers a c :=
  fun kind => Nat.le_trans (second kind) (first kind)

theorem contains_self (a : Option String) : contains a a = true := by
  rw [contains_iff_getD]
  by_cases empty : a.getD "" = ""
  next => exact .inl empty
  next => exact .inr ⟨empty, fun kind => Nat.le_refl _⟩

theorem contains_trans {a b c : Option String} (first : contains a b = true)
    (second : contains b c = true) : contains a c = true := by
  rw [contains_iff_getD] at *
  obtain empty | ⟨given, second⟩ := second
  next => exact .inl empty
  obtain empty | ⟨above, first⟩ := first
  next => exact absurd empty given
  next => exact .inr ⟨above, first.trans second⟩

section

variable {a b : String} (covers : Covers a b)

include covers

theorem Covers.amount_le (uncapped : total (some a) < maxTotal) {kind : String}
    (weighs : symbolValue kind ≠ 0) : amount (pips b) kind ≤ pipCount a kind := by
  -- Nothing of a heavy kind is capped in the first cost, and so nothing in the second one.
  have counted := pipCount_eq_amount uncapped weighs
  have bound := amount_le_worth (pips a) weighs
  have caps : maxTotal < maxPips := by decide
  have fewer := covers kind
  rw [total_eq] at uncapped
  rw [pipCount, countPips_eq] at fewer
  omega

theorem Covers.worth_le (uncapped : total (some a) < maxTotal) :
    worth (pips b) ≤ total (some a) := by
  let kinds := ((pips a ++ pips b).map Prod.fst).toFinset
  have all (p : String × Nat) (listed : p ∈ pips a ++ pips b) : p.1 ∈ kinds :=
    List.mem_toFinset.2 (List.mem_map_of_mem listed)
  calc worth (pips b) = ∑ kind ∈ kinds, amount (pips b) kind * symbolValue kind :=
        worth_eq_sum _ kinds fun p listed => all p (List.mem_append_right _ listed)
    _ ≤ ∑ kind ∈ kinds, pipCount a kind * symbolValue kind := by
        apply Finset.sum_le_sum
        intro kind _
        by_cases weighs : symbolValue kind = 0
        next => rw [weighs, Nat.mul_zero, Nat.mul_zero]
        next => exact Nat.mul_le_mul_right _ (covers.amount_le uncapped weighs)
    _ = total (some a) :=
        (total_eq_sum uncapped fun p listed => all p (List.mem_append_left _ listed)).symm

theorem Covers.total_le : total (some b) ≤ total (some a) := by
  by_cases uncapped : total (some a) < maxTotal
  next =>
    have worth := covers.worth_le uncapped
    rw [total_eq b]
    omega
  next =>
    rw [total_eq b]
    omega

end

theorem total_le_of_contains {a b : Option String} (contained : contains a b = true) :
    total b ≤ total a := by
  rw [total_getD a, total_getD b]
  obtain empty | ⟨-, covers⟩ := (contains_iff_getD a b).1 contained
  next =>
    have nothing : total (some "") = 0 := (total_getD none).symm
    rw [empty, nothing]
    exact Nat.zero_le _
  next => exact covers.total_le

theorem total_map_fold (column : Option String) : total (column.map Text.fold) = total column := by
  rw [total_getD, Text.getD_map_fold, total_fold, ← total_getD]

theorem compareMana_atLeast (column : Option String) (value : String) :
    compareMana .atLeast column value =
      contains (column.map Text.fold) (some (Text.fold value)) := by
  have sized (contained : contains (column.map Text.fold) (some (Text.fold value)) = true) :
      Comparison.atLeast.holds (compare (total column) (total (some (Text.fold value)))) = true := by
    have size := total_le_of_contains contained
    rw [total_map_fold] at size
    simpa [Comparison.holds, Nat.compare_eq_lt] using size
  rw [compareMana, compareSets, Bool.and_eq_right_iff_imp]
  exact sized

theorem contains_order (a b c : Option String) :
    contains a a = true ∧
    (contains a b = true → contains b c = true → contains a c = true) ∧
    (contains a b = true → total b ≤ total a) ∧
    ∀ (column : Option String) (value : String),
      let atLeast := Condition.ofSets manaFunctions .atLeast
      (∀ name, atLeast.sql name = setComparisonSql manaFunctions name .atLeast) ∧
      (∀ (s : Store) (j : JoinedRow), (Term.mana .atLeast value).onRow s j =
        atLeast.truth j.card.manaCost (some value)) ∧
      (atLeast.truth column (some value) = .yes ↔
        contains (column.map Text.fold) (some (Text.fold value)) = true) := by
  refine ⟨contains_self a, contains_trans, total_le_of_contains, fun column value => ⟨?_, ?_, ?_⟩⟩
  next => exact fun name => Condition.sql_ofSets manaFunctions name .atLeast
  next => exact fun s j => (Condition.truth_ofMana .atLeast j.card.manaCost value).symm
  next => rw [Condition.truth_ofMana, Truth.ofBool_eq_yes, compareMana_atLeast]

-- An amount that does not fit in 32 bits is a pip of its own kind.
theorem contains_order_large :
    contains (some "4000000000U99999999999R4000000000") (some "99999999999u4000000000") = true ∧
    contains (some "99999999999u4000000000") (some "2000000000u") = true ∧
    contains (some "4000000000U99999999999R4000000000") (some "2000000000u") = true ∧
    total (some "99999999999u4000000000") ≤ total (some "4000000000U99999999999R4000000000") := by
  have large : symbols "4000000000U99999999999R4000000000" =
      ["4000000000", "u", "99999999999", "r", "4000000000"] := by cbv
  have medium : symbols "99999999999u4000000000" = ["99999999999", "u", "4000000000"] := by cbv
  have small : symbols "2000000000u" = ["2000000000", "u"] := by cbv
  have above : contains (some "4000000000U99999999999R4000000000")
      (some "99999999999u4000000000") = true := by
    simp only [contains, Option.getD_some, pips, large, medium]
    decide
  have below : contains (some "99999999999u4000000000") (some "2000000000u") = true := by
    simp only [contains, Option.getD_some, pips, medium, small]
    decide
  have laws := contains_order (some "4000000000U99999999999R4000000000")
    (some "99999999999u4000000000") (some "2000000000u")
  exact ⟨above, below, laws.2.1 above below, laws.2.2.1 above⟩

end CardCatalog.Mana
