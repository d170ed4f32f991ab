import CardCatalog.Proofs.Store.Names

/-!
What a listing does not depend on. Main statement: legalities, prices, rulings and tokens come and
go without a change to the names that a query lists in their order, unless it asks for a format or
a price.
-/

set_option autoImplicit false

namespace CardCatalog

theorem mergeSort_eq_of_perm {α : Type} {le : α → α → Bool} {as bs : List α}
    (trans : ∀ a b c, le a b = true → le b c = true → le a c = true)
    (total : ∀ a b, (le a b || le b a) = true)
    (antisymm : ∀ a b, le a b = true → le b a = true → a = b) (perm : as.Perm bs) :
    as.mergeSort le = bs.mergeSort le := by
  refine List.Perm.eq_of_pairwise (fun a b _ _ => antisymm a b)
    (List.pairwise_mergeSort trans total as) (List.pairwise_mergeSort trans total bs) ?_
  exact (List.mergeSort_perm as le).trans (perm.trans (List.mergeSort_perm bs le).symm)

/-! ## Names in order -/

/-- The order of names in a listing by name. -/
def nameOrdered (reverse : Bool) (a b : String) : Bool :=
  if reverse then compare a b != .lt else compare a b != .gt

theorem nameOrdered_eq (reverse : Bool) (a b : String) :
    nameOrdered reverse a b = if reverse then (compare b a).isLE else (compare a b).isLE := by
  have le (o : Ordering) : (o != .gt) = o.isLE := by cases o <;> rfl
  have ge (o : Ordering) : (o != .lt) = o.swap.isLE := by cases o <;> rfl
  rw [nameOrdered, le, ge, ← Std.OrientedCmp.eq_swap]

theorem nameOrdered_trans (reverse : Bool) (a b c : String)
    (first : nameOrdered reverse a b = true) (second : nameOrdered reverse b c = true) :
    nameOrdered reverse a c = true := by
  rw [nameOrdered_eq] at *
  cases reverse with
  | false => exact Std.TransCmp.isLE_trans first second
  | true => exact Std.TransCmp.isLE_trans second first

theorem nameOrdered_total (reverse : Bool) (a b : String) :
    (nameOrdered reverse a b || nameOrdered reverse b a) = true := by
  have swap : compare b a = (compare a b).swap := Std.OrientedCmp.eq_swap
  rw [nameOrdered_eq, nameOrdered_eq, swap]
  cases reverse <;> cases compare a b <;> rfl

theorem nameOrdered_antisymm (reverse : Bool) (a b : String)
    (first : nameOrdered reverse a b = true) (second : nameOrdered reverse b a = true) :
    a = b := by
  rw [nameOrdered_eq] at *
  cases reverse with
  | false => exact Std.LawfulEqCmp.eq_of_compare (Std.OrientedCmp.isLE_antisymm first second)
  | true => exact Std.LawfulEqCmp.eq_of_compare (Std.OrientedCmp.isLE_antisymm second first)

namespace Store

/-- The names of a listing by name are sorted on their own, whatever rows they stand for. -/
theorem map_displayName_sorted (s : Store) (query : Option (Query .any)) {o : SearchOptions}
    (byName : o.sort = .name) :
    (s.sorted query o).map (·.card.displayName) =
      let names := ((s.listed query).map (·.card.displayName)).mergeSort (nameOrdered o.reverse)
      (o.limit.map names.take).getD names := by
  have keyed (a b : JoinedRow) :
      (if o.reverse then JoinedRow.order o.sort a b != .lt
        else JoinedRow.order o.sort a b != .gt) =
        nameOrdered o.reverse a.card.displayName b.card.displayName := by
    simp only [byName, JoinedRow.order, JoinedRow.keyOrder, Ordering.then_self, nameOrdered]
  have rows := List.map_mergeSort (f := fun j : JoinedRow => j.card.displayName)
    (l := s.listed query) fun a _ b _ => keyed a b
  cases limit : o.limit with
  | none => simpa only [sorted, limit, Option.map_none, Option.getD_none] using rows
  | some n =>
    simp only [sorted, limit, List.map_take, Option.map_some, Option.getD_some]
    rw [← rows]

end Store

/-! ## Insertions beside the cards -/

/-- Whether an insertion leaves the cards and the sets as they are. -/
def Insertion.isAside : Insertion → Bool
  | .card _ | .set _ => false
  | .token _ | .legality .. | .price .. | .ruling .. => true

/-- Catalogues with the same cards in the same sets. -/
structure SameCards (s u : Store) : Prop where
  cards : s.cards = u.cards
  sets : s.sets = u.sets

theorem SameCards.symm {s u : Store} (same : SameCards s u) : SameCards u s :=
  ⟨same.cards.symm, same.sets.symm⟩

theorem sameCards_insert (s : Store) {i : Insertion} (aside : i.isAside = true) :
    SameCards s (s.insert i) := by
  cases i with
  | card | set => simp [Insertion.isAside] at aside
  | token | legality | price | ruling => exact ⟨rfl, rfl⟩

namespace SameCards

variable {s u : Store} {query : Option (Query .any)}

theorem satisfies_eq (same : SameCards s u)
    (plain : ∀ q ∈ query, ∀ t ∈ q.terms, t.keyword ≠ .legal ∧ t.keyword ≠ .price)
    {i j : JoinedRow} (card : i.card = j.card) (set : i.set = j.set) :
    s.satisfies query i = u.satisfies query j := by
  cases query with
  | none => rfl
  | some q =>
    have truth : q.truth s i = q.truth u j := Query.eval_congr fun t member => by
      obtain ⟨legal, price⟩ := plain q rfl t member
      exact Query.Term.truth_congr same.cards card set (fun asks => absurd asks legal)
        fun asks => absurd asks price
    simp only [Store.satisfies, truth]

theorem listed_subset (same : SameCards s u)
    (plain : ∀ q ∈ query, ∀ t ∈ q.terms, t.keyword ≠ .legal ∧ t.keyword ≠ .price) :
    (s.listed query).map (·.card.displayName) ⊆ (u.listed query).map (·.card.displayName) := by
  intro name found
  obtain ⟨r, row, named, listable, j, joined, satisfied⟩ := Store.mem_names_listed.1 found
  obtain ⟨set, l, known, -, rfl⟩ := Store.mem_join.1 joined
  -- The other catalogue may join the row with other legalities, but with one at least.
  obtain ⟨k, joins⟩ := u.exists_joinsLegality r
  have known' : u.set? r.setCode = some set := by rwa [Store.set?, ← same.sets]
  refine Store.mem_names_listed.2 ⟨r, same.cards ▸ row, named, listable,
    ⟨r, set, k, u.latestPrice r.uuid⟩, Store.mem_join.2 ⟨set, k, known', joins, rfl⟩, ?_⟩
  exact (same.satisfies_eq plain (by rfl) (by rfl)).symm.trans satisfied

theorem listed_perm (same : SameCards s u)
    (plain : ∀ q ∈ query, ∀ t ∈ q.terms, t.keyword ≠ .legal ∧ t.keyword ≠ .price) :
    ((s.listed query).map (·.card.displayName)).Perm
      ((u.listed query).map (·.card.displayName)) :=
  (List.perm_ext_iff_of_nodup (nodup_firstOfEachName _ _) (nodup_firstOfEachName _ _)).2
    fun _ => ⟨fun found => same.listed_subset plain found,
      fun found => same.symm.listed_subset plain found⟩

theorem map_displayName_sorted_eq (same : SameCards s u)
    (plain : ∀ q ∈ query, ∀ t ∈ q.terms, t.keyword ≠ .legal ∧ t.keyword ≠ .price)
    {o : SearchOptions} (byName : o.sort = .name) :
    (s.sorted query o).map (·.card.displayName) = (u.sorted query o).map (·.card.displayName) := by
  rw [s.map_displayName_sorted query byName, u.map_displayName_sorted query byName,
    mergeSort_eq_of_perm (nameOrdered_trans o.reverse) (nameOrdered_total o.reverse)
      (nameOrdered_antisymm o.reverse) (same.listed_perm plain)]

end SameCards

namespace Store

open Query

/-- A listing by name of a query that asks for no format and no price has the same names in the
same order after a legality, a price, a ruling or a token is recorded. -/
theorem names_search_insert (s : Store) (query : Option (Query .any)) {i : Insertion}
    (aside : i.isAside = true)
    (plain : ∀ q ∈ query, ∀ t ∈ q.terms, t.keyword ≠ .legal ∧ t.keyword ≠ .price)
    (reverse : Bool) (limit : Option Nat) :
    ∃ before after, s.search query { sort := .name, reverse, limit } = .ok before ∧
      (s.insert i).search query { sort := .name, reverse, limit } = .ok after ∧
      after.map (·.name) = before.map (·.name) := by
  refine ⟨_, _, s.search_eq_ok query _, (s.insert i).search_eq_ok query _, ?_⟩
  have same := (sameCards_insert s aside).map_displayName_sorted_eq plain
    (o := { sort := .name, reverse, limit }) rfl
  rw [List.map_map, List.map_map]
  exact same.symm

theorem names_search_insert_thirdFormat :
    let s := ofInsertions twoFormats
    let banned := Insertion.legality "a" ⟨"vintage", "Banned"⟩
    let query := some (alone (.name "angel" false))
    banned.isAside = true ∧
    (∀ q ∈ query, ∀ t ∈ q.terms, t.keyword ≠ .legal ∧ t.keyword ≠ .price) ∧
    ∃ before after, s.search query { sort := .name, reverse := true, limit := some 1 } = .ok before ∧
      (s.insert banned).search query { sort := .name, reverse := true, limit := some 1 } =
        .ok after ∧
      after.map (·.name) = before.map (·.name) := by
  intro s banned query
  have plain : ∀ q ∈ query, ∀ t ∈ q.terms, t.keyword ≠ .legal ∧ t.keyword ≠ .price := by
    simp only [query, Option.mem_def, Option.some.injEq, forall_eq']
    decide
  exact ⟨rfl, plain, names_search_insert s query rfl plain true (some 1)⟩

end Store

end CardCatalog
