import CardCatalog.Proofs.Number.Order
import CardCatalog.Proofs.Sorting
import CardCatalog.Proofs.Store.Listing
import CardCatalog.Proofs.Text.Bytes

/-!
The order in which a search lists its cards. Main statement: the cards stand in the order of the
sort key, or in its reverse, and a limit keeps the first of them.
-/

set_option autoImplicit false

namespace CardCatalog

/-- Whether a card may stand before another in the order of a key: names and set codes go by their
bytes, costs and prices by their amounts, and a missing price comes before every other. -/
def SortKey.AtMost (key : SortKey) (a b : Card) : Prop :=
  match key with
  | .name => Text.bytes a.name ≤ Text.bytes b.name
  | .cmc => a.cmc ≤ b.cmc
  | .price => ∀ x ∈ a.price, ∃ y ∈ b.price, x ≤ y
  | .setCode => Text.bytes a.setCode ≤ Text.bytes b.setCode

/-! ## The order of joined rows -/

theorem optionalOrder_eq (a b : Option Float) :
    optionalOrder a b = compare (a.map Number.orderKey) (b.map Number.orderKey) := by
  cases a <;> cases b <;> rfl

theorem isLE_optionalOrder_iff {a b : Option Float} (first : ∀ x ∈ a, Number.isNaN x = false)
    (second : ∀ y ∈ b, Number.isNaN y = false) :
    (optionalOrder a b).isLE = true ↔ ∀ x ∈ a, ∃ y ∈ b, x ≤ y := by
  cases a with
  | none => cases b <;> simp [optionalOrder]
  | some x =>
    cases b with
    | none => simp [optionalOrder]
    | some y => simpa [optionalOrder] using Number.isLE_order_iff (first x rfl) (second y rfl)

namespace JoinedRow

instance (key : SortKey) : Std.TransCmp (keyOrder key) := by
  cases key with
  | name => exact inferInstanceAs (Std.TransCmp (compareOn fun j : JoinedRow => j.card.displayName))
  | cmc =>
    exact inferInstanceAs
      (Std.TransCmp (compareOn fun j : JoinedRow => Number.orderKey j.card.cmc))
  | price =>
    have keyed : keyOrder .price = compareOn fun j : JoinedRow =>
        (j.price.bind (·.price)).map Number.orderKey :=
      funext fun a => funext fun b => optionalOrder_eq _ _
    rw [keyed]
    infer_instance
  | setCode => exact inferInstanceAs (Std.TransCmp (compareOn fun j : JoinedRow => j.card.setCode))

instance (key : SortKey) : Std.TransCmp (order key) :=
  inferInstanceAs (Std.TransCmp
    (compareLex (keyOrder key) (compareOn fun j : JoinedRow => j.card.displayName)))

theorem isLE_keyOrder {key : SortKey} {a b : JoinedRow} (le : (order key a b).isLE = true) :
    (keyOrder key a b).isLE = true := by
  unfold order at le
  cases keyed : keyOrder key a b <;> simp_all [Ordering.then]

end JoinedRow

namespace Store

variable {s : Store} {query : Option (Query .any)}

theorem mem_prices_of_latestPrice {uuid : String} {row : PriceRow}
    (latest : s.latestPrice uuid = some row) : row ∈ s.prices := by
  have among := List.mem_mergeSort.1 (List.mem_of_head? latest)
  exact List.mem_of_mem_filter among

theorem isNaN_price_of_mem_listed (prices : s.PricesAreNumbers) {j : JoinedRow}
    (member : j ∈ s.listed query) : ∀ x ∈ j.price.bind (·.price), Number.isNaN x = false := by
  intro x priced
  obtain ⟨row, latest, price⟩ := Option.bind_eq_some_iff.1 priced
  obtain ⟨-, joined, -, -⟩ := mem_listed member
  rw [(card_of_mem_join joined).2] at latest
  exact prices row (mem_prices_of_latestPrice latest) x price

/-- Rows in the order of a key become cards in its order. -/
theorem atMost_cardOf (consistent : s.Consistent) (prices : s.PricesAreNumbers) {key : SortKey}
    {i j : JoinedRow} (first : i ∈ s.listed query) (second : j ∈ s.listed query)
    (le : (JoinedRow.order key i j).isLE = true) :
    key.AtMost (s.cardOf {} i.price i.card) (s.cardOf {} j.price j.card) := by
  have keyed := JoinedRow.isLE_keyOrder le
  cases key with
  | name => exact Text.isLE_compare_iff.1 keyed
  | cmc =>
    have numbers := consistent.numbers
    exact (Number.isLE_order_iff (numbers _ (mem_listed first).1)
      (numbers _ (mem_listed second).1)).1 keyed
  | price =>
    exact (isLE_optionalOrder_iff (isNaN_price_of_mem_listed prices first)
      (isNaN_price_of_mem_listed prices second)).1 keyed
  | setCode => exact Text.isLE_compare_iff.1 keyed

/-! ## The order of a listing -/

theorem sorted_eq (s : Store) (query : Option (Query .any)) (o : SearchOptions) :
    s.sorted query o = (o.limit.map fun n => (s.sorted query { o with limit := none }).take n).getD
      (s.sorted query { o with limit := none }) := by
  cases limit : o.limit <;> simp [sorted, limit]

theorem pairwise_sorted (s : Store) (query : Option (Query .any)) (o : SearchOptions) :
    (s.sorted query o).Pairwise fun i j =>
      (if o.reverse then JoinedRow.order o.sort j i else JoinedRow.order o.sort i j).isLE = true := by
  have whole : (s.sorted query { o with limit := none }).Pairwise fun i j =>
      (if o.reverse then JoinedRow.order o.sort j i else JoinedRow.order o.sort i j).isLE =
        true := by
    cases reverse : o.reverse with
    | false => simpa [sorted, reverse] using pairwise_mergeSort_ascending (s.listed query)
    | true => simpa [sorted, reverse] using pairwise_mergeSort_descending (s.listed query)
  rw [sorted_eq]
  cases o.limit with
  | none => exact whole
  | some n => exact whole.sublist (List.take_sublist n _)

/-- The cards of a search stand in the order of the sort key or in its reverse, and a search with
a limit answers with the first cards of the search without it. -/
theorem search_sorted (insertions : List Insertion) (query : Option (Query .any))
    (o : SearchOptions) :
    let s := ofInsertions insertions
    ∃ all cards, s.search query { o with limit := none } = .ok all ∧
      s.search query o = .ok cards ∧
      cards.Pairwise (fun a b => if o.reverse then o.sort.AtMost b a else o.sort.AtMost a b) ∧
      ∀ n ∈ o.limit, cards = all.take n := by
  intro s
  refine ⟨_, _, s.search_eq_ok query _, s.search_eq_ok query o, ?_, ?_⟩
  next =>
    refine List.pairwise_map.2 ((s.pairwise_sorted query o).imp_of_mem ?_)
    intro i j first second le
    have consistent := consistent_ofInsertions insertions
    have prices := pricesAreNumbers_ofInsertions insertions
    have first := mem_listed_of_sorted first
    have second := mem_listed_of_sorted second
    cases reverse : o.reverse with
    | false =>
      rw [reverse] at le
      exact atMost_cardOf consistent prices first second le
    | true =>
      rw [reverse] at le
      exact atMost_cardOf consistent prices second first le
  next =>
    intro n limit
    rw [sorted_eq, Option.mem_def.1 limit, Option.map_some, Option.getD_some, List.map_take]

end Store

end CardCatalog
