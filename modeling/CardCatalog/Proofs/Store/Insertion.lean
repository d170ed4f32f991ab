import Mathlib
import CardCatalog.Store.Basic

/-!
Catalogues as they are filled. Main statement: whatever is inserted in whatever order, no two rows
of a table with identities share one, and every stored cost and price is a number.
-/

set_option autoImplicit false

namespace CardCatalog

inductive Insertion where
  | card (r : CardRow)
  | token (r : TokenRow)
  | set (info : SetInfo)
  | legality (uuid : String) (l : Legality)
  | price (uuid : String) (price : Float) (date : Option Date)
  | ruling (uuid : String) (r : Ruling)

namespace Store

def insert (s : Store) : Insertion → Store
  | .card r => s.insertCard r
  | .token r => s.insertToken r
  | .set info => s.insertSet info
  | .legality uuid l => s.insertLegality uuid l
  | .price uuid price date => s.insertPrice uuid price date
  | .ruling uuid r => s.insertRuling uuid r

def ofInsertions (insertions : List Insertion) : Store :=
  insertions.foldl insert empty

/-- The rows of each table have identities of their own, and costs are numbers. -/
structure Consistent (s : Store) : Prop where
  cards : (s.cards.map (·.uuid)).Nodup
  tokens : (s.tokens.map (·.uuid)).Nodup
  sets : (s.sets.map (·.code)).Nodup
  numbers : ∀ r ∈ s.cards, Number.isNaN r.cmc = false

theorem consistent_empty : empty.Consistent where
  cards := .nil
  tokens := .nil
  sets := .nil
  numbers _ member := nomatch member

section

variable {α : Type} {key : α → String} {rows : List α}

theorem nodup_replace (a : α) (nodup : (rows.map key).Nodup) :
    ((rows.filter (fun b => key b ≠ key a) ++ [a]).map key).Nodup := by
  rw [List.map_append]
  refine List.Nodup.append ?_ (List.nodup_singleton _) ?_
  next => exact nodup.sublist (List.filter_sublist.map key)
  next =>
    intro k kept new
    obtain ⟨b, member, rfl⟩ := List.mem_map.1 kept
    have other := (List.mem_filter.1 member).2
    simp_all

theorem find?_eq_some_iff_of_nodup {k : String} {a : α} (nodup : (rows.map key).Nodup) :
    rows.find? (fun b => key b = k) = some a ↔ a ∈ rows ∧ key a = k := by
  constructor
  next =>
    intro found
    exact ⟨List.mem_of_find?_eq_some found, by simpa using List.find?_some found⟩
  next =>
    rintro ⟨member, rfl⟩
    cases found : rows.find? fun b => key b = key a with
    | none =>
      have none := List.find?_eq_none.1 found a member
      simp at none
    | some b =>
      have same : key b = key a := by simpa using List.find?_some found
      rw [List.inj_on_of_nodup_map nodup (List.mem_of_find?_eq_some found) member same]

end

theorem isNaN_storedFloat (x : Float) : Number.isNaN ((storedFloat x).getD 0) = false := by
  have zero : Number.isNaN 0 = false := by decide
  unfold storedFloat
  split
  next => exact zero
  next number =>
    split
    next => exact zero
    next => simpa using number

theorem Consistent.insert {s : Store} (consistent : s.Consistent) (i : Insertion) :
    (s.insert i).Consistent := by
  cases i with
  | card r =>
    refine { consistent with cards := nodup_replace _ consistent.cards, numbers := ?_ }
    intro c member
    rcases List.mem_append.1 member with kept | new
    next => exact consistent.numbers c (List.mem_of_mem_filter kept)
    next =>
      cases List.mem_singleton.1 new
      exact isNaN_storedFloat r.cmc
  | token r => exact { consistent with tokens := nodup_replace r consistent.tokens }
  | set info => exact { consistent with sets := nodup_replace info consistent.sets }
  | legality | price | ruling => exact { consistent with }

theorem consistent_foldl (insertions : List Insertion) {s : Store} (consistent : s.Consistent) :
    (insertions.foldl insert s).Consistent := by
  induction insertions generalizing s with
  | nil => exact consistent
  | cons i rest ih => exact ih (consistent.insert i)

theorem consistent_ofInsertions (insertions : List Insertion) :
    (ofInsertions insertions).Consistent :=
  consistent_foldl insertions consistent_empty

/-! ## Stored prices -/

theorem isNaN_of_storedFloat {x y : Float} (stored : storedFloat x = some y) :
    Number.isNaN y = false := by
  have number := isNaN_storedFloat x
  rwa [stored, Option.getD_some] at number

/-- Every stored price is a number. -/
def PricesAreNumbers (s : Store) : Prop :=
  ∀ row ∈ s.prices, ∀ x ∈ row.price, Number.isNaN x = false

theorem PricesAreNumbers.insert {s : Store} (numbers : s.PricesAreNumbers) (i : Insertion) :
    (s.insert i).PricesAreNumbers := by
  cases i with
  | price uuid price date =>
    intro row member x priced
    rcases List.mem_append.1 member with kept | new
    next => exact numbers row kept x priced
    next =>
      cases List.mem_singleton.1 new
      exact isNaN_of_storedFloat priced
  | card | token | set | legality | ruling => exact numbers

theorem pricesAreNumbers_foldl (insertions : List Insertion) {s : Store}
    (numbers : s.PricesAreNumbers) : (insertions.foldl insert s).PricesAreNumbers := by
  induction insertions generalizing s with
  | nil => exact numbers
  | cons i rest ih => exact ih (numbers.insert i)

theorem pricesAreNumbers_ofInsertions (insertions : List Insertion) :
    (ofInsertions insertions).PricesAreNumbers :=
  pricesAreNumbers_foldl insertions fun _ member => nomatch member

end Store

end CardCatalog
