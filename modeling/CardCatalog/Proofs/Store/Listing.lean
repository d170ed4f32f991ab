import CardCatalog.Proofs.Query.Precedence
import CardCatalog.Proofs.Store.Insertion
import CardCatalog.Store.Search

/-!
What a search lists. Main statement: the names of the listed cards are those of the rows that may
be listed and satisfy the query with one of their legalities, each of them once.
-/

set_option autoImplicit false

namespace CardCatalog

/-! ## One item of each name -/

section

variable {α : Type} {name : α → String}

theorem firstOfEachName_sublist (seen : List String) (rows : List α) :
    (firstOfEachName name seen rows).Sublist rows := by
  fun_induction firstOfEachName name seen rows with
  | case1 => exact .slnil
  | case2 seen a rest found ih => exact ih.cons a
  | case3 seen a rest found ih => exact ih.cons_cons a

theorem mem_names_firstOfEachName {seen : List String} {rows : List α} {n : String} :
    n ∈ (firstOfEachName name seen rows).map name ↔ n ∈ rows.map name ∧ n ∉ seen := by
  fun_induction firstOfEachName name seen rows with
  | case1 => simp
  | case2 seen a rest found ih => grind
  | case3 seen a rest found ih => grind

theorem nodup_firstOfEachName (seen : List String) (rows : List α) :
    ((firstOfEachName name seen rows).map name).Nodup := by
  fun_induction firstOfEachName name seen rows with
  | case1 => exact .nil
  | case2 seen a rest found ih => exact ih
  | case3 seen a rest found ih =>
    refine List.nodup_cons.2 ⟨fun again => ?_, ih⟩
    exact (mem_names_firstOfEachName.1 again).2 List.mem_cons_self

end

/-! ## The rows of a listing -/

/-- A row that stands for a card in listings: a paper printing outside the novelty sets, and the
face that stands for its card. -/
structure CardRow.Listable (r : CardRow) : Prop where
  paper : "paper" ∈ NameList.names r.availability
  included : r.setCode ∉ excludedSets
  primary : r.primaryFace = .yes

/-- A row is joined with its legalities one at a time, and with none only if it has none. -/
inductive JoinsLegality (s : Store) (r : CardRow) : Option Legality → Prop where
  | own {l : LegalityRow} (member : l ∈ s.legalities) (same : l.uuid = r.uuid) :
    JoinsLegality s r (some l.legality)
  | missing (others : ∀ l ∈ s.legalities, l.uuid ≠ r.uuid) : JoinsLegality s r none

/-! ## The condition within the text of a listing -/

namespace Query

open Sql

end Query

namespace Store

theorem isListable_iff {r : CardRow} : isListable r = true ↔ r.Listable := by
  have paper : r.isPaper = true ↔ "paper" ∈ NameList.names r.availability := by
    simp [CardRow.isPaper, NameList.holds]
  simp only [isListable, Bool.and_eq_true, paper, Truth.holds_iff]
  constructor
  next =>
    rintro ⟨⟨inPaper, included⟩, stands⟩
    exact ⟨inPaper, by simpa using included, stands⟩
  next =>
    rintro ⟨inPaper, included, stands⟩
    exact ⟨⟨inPaper, by simpa using included⟩, stands⟩

theorem redirect?_eq_none {r : CardRow} (primary : r.primaryFace = .yes) : r.redirect? = none := by
  have stays : wholeCardName (Layout.ofName r.layout) r.sideOf (faceNames r.name) = none := by
    unfold wholeCardName
    refine if_neg ?_
    simp only [Bool.and_eq_true, decide_eq_true_eq, not_and]
    intro shares second
    -- A row of side "b" that stands for a card is a meld card, whose halves share no side.
    obtain ⟨name, side, second⟩ := Option.bind_eq_some_iff.1 second
    have isB : name = "b" := by
      unfold Side.ofName? at second
      grind
    have meld : r.layout = "meld" := by
      have holds := Truth.holds_iff.2 primary
      simpa [CardRow.primaryFace, CardRow.sideMissing, CardRow.sideIs, CardRow.layoutIs, side,
        isB, Truth.ofOption] using holds
    simp [meld, Layout.ofName, Layout.sharesSide] at shares
  simp [CardRow.redirect?, stays]

theorem next?_eq_none {l : CardLookup} {r : CardRow} (primary : r.primaryFace = .yes) :
    next? l r = none := by
  simp [next?, redirect?_eq_none primary]

theorem mem_legalitiesOf {s : Store} {uuid : String} {l : Legality} :
    l ∈ s.legalitiesOf uuid ↔ ∃ row ∈ s.legalities, row.uuid = uuid ∧ row.legality = l := by
  simp [legalitiesOf, and_assoc]

theorem joinsLegality_some {s : Store} {r : CardRow} {l : Legality} :
    JoinsLegality s r (some l) ↔ l ∈ s.legalitiesOf r.uuid := by
  rw [mem_legalitiesOf]
  constructor
  next =>
    rintro (⟨member, same⟩ | _)
    exact ⟨_, member, same, rfl⟩
  next =>
    rintro ⟨row, member, same, rfl⟩
    exact .own member same

theorem joinsLegality_none {s : Store} {r : CardRow} :
    JoinsLegality s r none ↔ s.legalitiesOf r.uuid = [] := by
  constructor
  next =>
    rintro (_ | others)
    simpa [legalitiesOf] using others
  next =>
    intro missing
    refine .missing ?_
    simpa [legalitiesOf] using missing

theorem exists_joinsLegality (s : Store) (r : CardRow) : ∃ l, JoinsLegality s r l := by
  cases own : s.legalitiesOf r.uuid with
  | nil => exact ⟨none, joinsLegality_none.2 own⟩
  | cons first others => exact ⟨some first, joinsLegality_some.2 (by simp [own])⟩

theorem mem_join {s : Store} {r : CardRow} {j : JoinedRow} :
    j ∈ s.join r ↔ ∃ set l, s.set? r.setCode = some set ∧ JoinsLegality s r l ∧
      j = ⟨r, set, l, s.latestPrice r.uuid⟩ := by
  unfold join
  cases found : s.set? r.setCode with
  | none => simp
  | some set =>
    cases own : s.legalitiesOf r.uuid with
    | nil =>
      have joins (l : Option Legality) : JoinsLegality s r l ↔ l = none := by
        cases l <;> simp [joinsLegality_some, joinsLegality_none, own]
      simp [joins]
    | cons first others =>
      have joins (l : Option Legality) :
          JoinsLegality s r l ↔ ∃ a ∈ first :: others, some a = l := by
        cases l <;> simp [joinsLegality_some, joinsLegality_none, own]
      simp only [joins]
      grind

theorem set?_eq_some {s : Store} (consistent : s.Consistent) {code : String} {set : SetInfo} :
    s.set? code = some set ↔ set ∈ s.sets ∧ set.code = code :=
  find?_eq_some_iff_of_nodup consistent.sets

theorem card_of_mem_join {s : Store} {r : CardRow} {j : JoinedRow} (member : j ∈ s.join r) :
    j.card = r ∧ j.price = s.latestPrice r.uuid := by
  obtain ⟨set, l, -, -, rfl⟩ := mem_join.1 member
  exact ⟨rfl, rfl⟩

theorem mem_listed {s : Store} {query : Option (Query .any)} {j : JoinedRow}
    (member : j ∈ s.listed query) : j.card ∈ s.cards ∧ j ∈ s.join j.card ∧ j.card.Listable ∧
      s.satisfies query j = true := by
  have kept := (firstOfEachName_sublist _ _).subset member
  simp only [List.mem_filter, List.mem_flatMap, Bool.and_eq_true, isListable_iff] at kept
  obtain ⟨⟨r, row, joined⟩, listable, satisfied⟩ := kept
  obtain ⟨rfl, -⟩ := card_of_mem_join joined
  exact ⟨row, joined, listable, satisfied⟩

theorem mem_names_listed {s : Store} {query : Option (Query .any)} {name : String} :
    name ∈ (s.listed query).map (·.card.displayName) ↔
      ∃ r ∈ s.cards, r.displayName = name ∧ r.Listable ∧
        ∃ j ∈ s.join r, s.satisfies query j = true := by
  rw [listed, mem_names_firstOfEachName]
  simp only [List.mem_map, List.mem_filter, List.mem_flatMap, Bool.and_eq_true, isListable_iff,
    List.not_mem_nil, not_false_eq_true, and_true]
  constructor
  next =>
    rintro ⟨j, ⟨⟨r, row, joined⟩, listable, satisfied⟩, named⟩
    obtain ⟨rfl, -⟩ := card_of_mem_join joined
    exact ⟨_, row, named, listable, j, joined, satisfied⟩
  next =>
    rintro ⟨r, row, named, listable, j, joined, satisfied⟩
    obtain ⟨rfl, -⟩ := card_of_mem_join joined
    exact ⟨j, ⟨⟨_, row, joined⟩, listable, satisfied⟩, named⟩

theorem sorted_perm (s : Store) (query : Option (Query .any)) {o : SearchOptions}
    (unlimited : o.limit = none) : (s.sorted query o).Perm (s.listed query) := by
  simp only [sorted, unlimited]
  exact List.mergeSort_perm _ _

theorem mem_listed_of_sorted {s : Store} {query : Option (Query .any)} {o : SearchOptions}
    {j : JoinedRow} (member : j ∈ s.sorted query o) : j ∈ s.listed query := by
  cases limit : o.limit with
  | none => exact (s.sorted_perm query limit).subset member
  | some n =>
    simp only [sorted, limit] at member
    exact (List.mergeSort_perm _ _).subset (List.mem_of_mem_take member)

/-- A search lists rows as they are: none of them stands for another card or fails. -/
theorem search_eq_ok (s : Store) (query : Option (Query .any)) (o : SearchOptions) :
    s.search query o = .ok ((s.sorted query o).map fun j => s.cardOf {} j.price j.card) := by
  refine mapM_eq_ok fun j member => ?_
  obtain ⟨-, -, listable, -⟩ := mem_listed (mem_listed_of_sorted member)
  simp [resolve, next?_eq_none listable.primary]

theorem names_search (s : Store) (query : Option (Query .any)) {o : SearchOptions}
    (unlimited : o.limit = none) {cards : List Card} (found : s.search query o = .ok cards) :
    (cards.map (·.name)).Perm ((s.listed query).map (·.card.displayName)) := by
  rw [search_eq_ok] at found
  cases found
  rw [List.map_map]
  exact (s.sorted_perm query unlimited).map _

end Store

end CardCatalog
