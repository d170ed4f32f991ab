import CardCatalog.Proofs.Mana.Pips
import CardCatalog.Proofs.Query.Template
import CardCatalog.Store.Condition
import CardCatalog.Store.Sample

/-!
The comparisons of mana costs. Main statement: at most one of more, equal and less holds, and what
is at least or at most a cost, but neither more nor less nor equal, differs from it by pips that
weigh nothing.
-/

set_option autoImplicit false

namespace CardCatalog

namespace Mana

/-- The first cost has every pip of the second and further ones, for the same total. -/
structure Surplus (a b : String) : Prop where
  same : total (some a) = total (some b)
  covers : Covers a b
  more : ¬ Covers b a

theorem Surplus.pipCount_eq {a b : String} (surplus : Surplus a b)
    (uncapped : total (some a) < maxTotal) {kind : String} (weighs : symbolValue kind ≠ 0) :
    pipCount a kind = pipCount b kind := by
  refine Nat.le_antisymm (Nat.le_of_not_lt fun more => ?_) (surplus.covers kind)
  exact weighs (symbolValue_eq_zero_of_lt uncapped surplus.same surplus.covers more)

theorem Surplus.ne_empty {a b : String} (surplus : Surplus a b) : a ≠ "" := by
  rintro rfl
  exact surplus.more (covers_empty b)

end Mana

namespace Query

open Mana

section

variable {rate : Float} {value : String} {term : Comparison → Term}

theorem mana_of_ofKeyword
    (accepted : ∀ c, Term.ofKeyword rate "mana" (.compare c) false value = .ok (term c)) :
    value ≠ "" ∧ term = (.mana · value) := by
  have read (c : Comparison) : symbols value ≠ [] ∧ term c = .mana c value := by
    obtain ⟨keyword, found, fits⟩ := Term.ofKeyword_eq_ok (accepted c)
    obtain rfl : Keyword.mana = keyword := Option.some.inj (found.symm.trans (by decide)).symm
    obtain ⟨cost, fits, same⟩ := Option.map_eq_some_iff.1 fits
    unfold readCost? at fits
    split at fits
    next => cases fits
    next symbols =>
      cases fits
      exact ⟨symbols, same.symm⟩
  exact ⟨ne_empty_of_symbols (read .equal).1, funext fun c => (read c).2⟩

/-- When a stored cost equals the one that it is compared with. -/
def SameCost (cost value : String) : Prop :=
  total (some cost) = total (some value) ∧ Covers value cost ∧ cost ≠ "" ∧ Covers cost value

/-- What a comparison asks of a stored cost and the one that it is compared with. -/
def Asks (cost value : String) : Comparison → Prop
  | .greater => total (some value) < total (some cost) ∧ cost ≠ "" ∧ Covers cost value
  | .atLeast => total (some value) ≤ total (some cost) ∧ cost ≠ "" ∧ Covers cost value
  | .less => total (some cost) < total (some value) ∧ Covers value cost
  | .atMost => total (some cost) ≤ total (some value) ∧ Covers value cost
  | .equal => SameCost cost value
  | .differs => ¬ SameCost cost value

theorem compareMana_iff (column : Option String) (cost : value ≠ "") (c : Comparison) :
    compareMana c column value = true ↔ Asks (column.getD "") value c := by
  have above : contains (column.map Text.fold) (some (Text.fold value)) = true ↔
      column.getD "" ≠ "" ∧ Covers (column.getD "") value :=
    (contains_fold column (some value)).trans (or_iff_right cost)
  have below : contains (some (Text.fold value)) (column.map Text.fold) = true ↔
      Covers value (column.getD "") := by
    refine (contains_fold (some value) column).trans ⟨?_, fun covers => .inr ⟨cost, covers⟩⟩
    rintro (empty | ⟨-, covers⟩)
    next => simpa only [empty] using covers_empty value
    next => exact covers
  have equal : compareMana .equal column value = true ↔ SameCost (column.getD "") value := by
    simp only [compareMana, compareSets, SameCost, Bool.and_eq_true, above, below,
      total_getD column, total_fold, Comparison.holds, and_assoc, beq_iff_eq, Nat.compare_eq_eq]
  cases c with
  | equal => exact equal
  | differs =>
    have negated : compareMana .differs column value = !compareMana .equal column value := rfl
    rw [negated, Asks, ← equal, Bool.not_eq_true', Bool.not_eq_true]
  | greater | atLeast | less | atMost =>
    simp only [compareMana, compareSets, Asks, Bool.and_eq_true, above, below, total_getD column,
      total_fold, Comparison.holds, beq_iff_eq, bne_iff_ne, ne_eq, Nat.compare_eq_gt,
      Nat.compare_eq_lt, Nat.not_lt]

theorem onRow_mana_iff (cost : value ≠ "") {s : Store} {j : JoinedRow} {c : Comparison} :
    (Term.mana c value).onRow s j = .yes ↔ Asks (j.card.manaCost.getD "") value c := by
  rw [← compareMana_iff _ cost c, Term.onRow, Truth.ofBool_eq_yes]

/-- The strict comparison that holds of values in the given order. -/
def strictOf : Ordering → Comparison
  | .lt => .less
  | .eq => .equal
  | .gt => .greater

theorem eq_strictOf_of_asks {cost : String} {c : Comparison}
    (strict : c ∈ [.greater, .equal, .less]) (asks : Asks cost value c) :
    c = strictOf (compare (total (some cost)) (total (some value))) := by
  simp only [List.mem_cons, List.not_mem_nil, or_false] at strict
  obtain rfl | rfl | rfl := strict
  next => rw [Nat.compare_eq_gt.2 asks.1, strictOf]
  next => rw [Nat.compare_eq_eq.2 asks.1, strictOf]
  next => rw [Nat.compare_eq_lt.2 asks.1, strictOf]

theorem asks_atLeast {cost : String} : Asks cost value .atLeast ↔
    Asks cost value .greater ∨ Asks cost value .equal ∨ Surplus cost value := by
  constructor
  next =>
    rintro ⟨size, given, covers⟩
    obtain less | same := Nat.lt_or_eq_of_le size
    next => exact .inl ⟨less, given, covers⟩
    next =>
      by_cases back : Covers value cost
      next => exact .inr (.inl ⟨same.symm, back, given, covers⟩)
      next => exact .inr (.inr ⟨same.symm, covers, back⟩)
  next =>
    rintro (greater | equal | surplus)
    next => exact ⟨Nat.le_of_lt greater.1, greater.2⟩
    next => exact ⟨Nat.le_of_eq equal.1.symm, equal.2.2⟩
    next => exact ⟨Nat.le_of_eq surplus.same.symm, surplus.ne_empty, surplus.covers⟩

theorem asks_atMost {cost : String} : Asks cost value .atMost ↔
    Asks cost value .less ∨ Asks cost value .equal ∨ Surplus value cost ∨
      cost = "" ∧ total (some value) = 0 := by
  have nothing : total (some "") = 0 := (total_getD none).symm
  constructor
  next =>
    rintro ⟨size, covers⟩
    obtain less | same := Nat.lt_or_eq_of_le size
    next => exact .inl ⟨less, covers⟩
    next =>
      by_cases back : Covers cost value
      next =>
        by_cases empty : cost = ""
        next =>
          subst empty
          exact .inr (.inr (.inr ⟨rfl, same.symm.trans nothing⟩))
        next => exact .inr (.inl ⟨same, covers, empty, back⟩)
      next => exact .inr (.inr (.inl ⟨same.symm, covers, back⟩))
  next =>
    rintro (less | equal | surplus | ⟨rfl, zero⟩)
    next => exact ⟨Nat.le_of_lt less.1, less.2⟩
    next => exact ⟨Nat.le_of_eq equal.1, equal.2.1⟩
    next => exact ⟨Nat.le_of_eq surplus.same.symm, surplus.covers⟩
    next => exact ⟨Nat.le_of_eq (nothing.trans zero.symm), covers_empty value⟩

theorem mana_comparisons
    (accepted : ∀ c, Term.ofKeyword rate "mana" (.compare c) false value = .ok (term c))
    (s : Store) (j : JoinedRow) :
    let cost := j.card.manaCost.getD ""
    let holds (c : Comparison) := (term c).onRow s j = .yes
    (holds .atLeast ↔ holds .greater ∨ holds .equal ∨ Surplus cost value) ∧
    (holds .atMost ↔ holds .less ∨ holds .equal ∨ Surplus value cost ∨
      cost = "" ∧ total (some value) = 0) ∧
    (∀ c ∈ [Comparison.greater, .equal, .less], ∀ d ∈ [Comparison.greater, .equal, .less],
      holds c → holds d → c = d) ∧
    (Surplus cost value ∨ Surplus value cost → total (some value) < maxTotal →
      ∀ kind, symbolValue kind ≠ 0 → pipCount cost kind = pipCount value kind) := by
  intro cost holds
  obtain ⟨given, rfl⟩ := mana_of_ofKeyword accepted
  simp only [holds, onRow_mana_iff given]
  refine ⟨asks_atLeast, asks_atMost, fun c strictC d strictD first second => ?_, ?_⟩
  next => exact (eq_strictOf_of_asks strictC first).trans (eq_strictOf_of_asks strictD second).symm
  rintro (surplus | surplus) uncapped kind weighs
  next => exact surplus.pipCount_eq (surplus.same ▸ uncapped) weighs
  next => exact (surplus.pipCount_eq uncapped weighs).symm

end

/-- A row with a mana cost. -/
def costing (cost : String) : JoinedRow where
  card := { Sample.shivanDragon with manaCost := some cost }
  set := ⟨"M15", "core", none⟩
  legality := none
  price := none

theorem surplus_x : Surplus "{X}{R}{R}" "rr" := by
  have first : pips "{X}{R}{R}" = [("x", 1), ("r", 1), ("r", 1)] := by cbv
  have second : pips "rr" = [("r", 1), ("r", 1)] := by cbv
  refine ⟨?_, fun kind => ?_, fun back => ?_⟩
  next =>
    rw [total_eq, total_eq, first, second]
    decide
  next =>
    rw [pipCount, pipCount, first, second, countPips_eq, countPips_eq, amount_cons ("x", 1)]
    omega
  next =>
    have x := back "x"
    rw [pipCount, pipCount, first, second] at x
    revert x
    decide

theorem ofKeyword_rr (c : Comparison) :
    Term.ofKeyword 1 "mana" (.compare c) false "rr" = .ok (.mana c "rr") := by
  cases c <;> cbv

theorem mana_comparisons_x :
    (∀ c, Term.ofKeyword 1 "mana" (.compare c) false "rr" = .ok (.mana c "rr")) ∧
    (Term.mana .atLeast "rr").onRow Store.empty (costing "{X}{R}{R}") = .yes :=
  ⟨ofKeyword_rr, (mana_comparisons ofKeyword_rr Store.empty (costing "{X}{R}{R}")).1.2
    (.inr (.inr surplus_x))⟩

theorem mana_atLeast_ne : ¬ ∀ (rate : Float) (value : String) (term : Comparison → Term),
    (∀ c, Term.ofKeyword rate "mana" (.compare c) false value = .ok (term c)) →
    ∀ (s : Store) (j : JoinedRow),
      let holds (c : Comparison) := (term c).onRow s j = .yes
      (holds .atLeast ↔ holds .greater ∨ holds .equal) ∧
      (holds .atMost ↔ holds .less ∨ holds .equal) ∧
      (∀ c ∈ [Comparison.greater, .equal, .less], ∀ d ∈ [Comparison.greater, .equal, .less],
        holds c → holds d → c = d) := by
  intro coherent
  have found := (coherent 1 "rr" _ ofKeyword_rr Store.empty (costing "{X}{R}{R}")).1.1
  simp only [onRow_mana_iff (show "rr" ≠ "" by decide)] at found
  obtain greater | equal := found (asks_atLeast.2 (.inr (.inr surplus_x)))
  next => exact absurd greater.1 (Nat.not_lt_of_ge (Nat.le_of_eq surplus_x.same))
  next => exact surplus_x.more equal.2.1

end Query

end CardCatalog
