import CardCatalog.Proofs.Query.Colors
import CardCatalog.Proofs.Sorting
import CardCatalog.Proofs.Store.Insertion
import CardCatalog.Store.Printings
import CardCatalog.Store.Sample

/-!
The printings of a name and the price of a name in a set. Main statement: a name has one printing
in each set in which it is stored, with the least of the prices known there, and looking up its
price in a set answers with that of the printing.
-/

set_option autoImplicit false

namespace CardCatalog

/-! ## The least of some prices -/

namespace Number

instance : Std.TransCmp order :=
  inferInstanceAs (Std.TransCmp (compareOn orderKey))

theorem order_eq_lt_iff {x y : Float} : order x y = .lt ↔ orderKey x < orderKey y :=
  Std.compare_eq_lt

end Number

namespace Store

open Number

theorem cheapest_eq_foldl (x : Float) (rest : List Float) :
    cheapest (x :: rest) =
      some (rest.foldl (fun best y => if order y best = .lt then y else best) x) := rfl

/-- Going through prices and keeping the least comes to the same as sorting them. -/
theorem cheapest_eq_head?_mergeSort (prices : List Float) :
    cheapest prices = (prices.mergeSort fun x y => order x y != .gt).head? := by
  cases prices with
  | nil => simp [cheapest]
  | cons x rest =>
    rw [cheapest_eq_foldl]
    induction rest generalizing x with
    | nil => simp
    | cons y rest ih =>
      -- The less of the first two stands before the others as both of them do.
      rw [List.foldl_cons, ih]
      simp only [head?_mergeSort_cons, Option.elim_some]
      cases (rest.mergeSort fun x y => order x y != .gt).head? with
      | none => rfl
      | some z =>
        simp only [Option.elim_some, order_eq_lt_iff, Option.some.injEq]
        grind

theorem cheapest_eq_none_iff {prices : List Float} : cheapest prices = none ↔ prices = [] := by
  cases prices <;> simp [cheapest]

theorem mem_of_cheapest {prices : List Float} {x : Float} (least : cheapest prices = some x) :
    x ∈ prices := by
  rw [cheapest_eq_head?_mergeSort] at least
  exact List.mem_mergeSort.1 (List.mem_of_head? least)

theorem isLE_of_cheapest {prices : List Float} {x y : Float} (least : cheapest prices = some x)
    (member : y ∈ prices) : (order x y).isLE = true := by
  have sorted : (prices.mergeSort fun x y => order x y != .gt).Pairwise
      fun x y => (order x y).isLE = true := pairwise_mergeSort_ascending prices
  rw [cheapest_eq_head?_mergeSort] at least
  have before := rel_of_head? (fun _ => Std.ReflCmp.isLE_rfl) sorted least
    (List.mem_mergeSort.2 member)
  exact before

/-! ## Printings -/

variable {s : Store} {name code : String} {p : Printing}

theorem mem_knownPrices {uuids : List String} {x : Float} : x ∈ s.knownPrices uuids ↔
    ∃ uuid ∈ uuids, ∃ row ∈ s.prices, row.uuid = uuid ∧ row.price = some x := by
  simp [knownPrices, pricesOf, and_assoc]

theorem map_setCode_printingsOf (rows : List (String × String)) :
    ((s.printingsOf rows).map (·.setCode)).Perm (rows.map (·.1)).eraseDups := by
  rw [printingsOf, List.map_map]
  exact (List.map_id _).symm ▸ (List.mergeSort_perm _ _).trans (List.mergeSort_perm _ _)

theorem price_of_mem_printingsOf {rows : List (String × String)}
    (member : p ∈ s.printingsOf rows) :
    p.price = cheapest (s.knownPrices ((rows.filter (·.1 = p.setCode)).map (·.2))) := by
  obtain ⟨code, -, rfl⟩ := List.mem_map.1 member
  rfl

theorem nodup_printings (s : Store) (name : String) :
    ((s.printings name).map (·.setCode)).Nodup :=
  (map_setCode_printingsOf _).nodup_iff.2 (NameList.nodup_eraseDups _)

theorem mem_setCode_printings : code ∈ (s.printings name).map (·.setCode) ↔
    ∃ r ∈ s.cards, Text.sameFolded r.displayName name = true ∧ r.setCode = code := by
  rw [printings, (map_setCode_printingsOf _).mem_iff, List.mem_eraseDups]
  simp [and_assoc]

/-- The rows of a name in a set. -/
def rowsIn (s : Store) (name code : String) : List CardRow :=
  s.cards.filter fun r => decide (r.setCode = code) && Text.sameFolded r.displayName name

theorem price_of_mem_printings (member : p ∈ s.printings name) :
    p.price = cheapest (s.knownPrices ((s.rowsIn name p.setCode).map (·.uuid))) := by
  rw [price_of_mem_printingsOf member, List.filter_map, List.map_map, List.filter_filter]
  rfl

/-- A price that is known for a row of the name in the set. -/
def PricedAt (s : Store) (name code : String) (x : Float) : Prop :=
  ∃ r ∈ s.cards, Text.sameFolded r.displayName name = true ∧ r.setCode = code ∧
    ∃ row ∈ s.prices, row.uuid = r.uuid ∧ row.price = some x

theorem mem_knownPrices_rowsIn {x : Float} :
    x ∈ s.knownPrices ((s.rowsIn name code).map (·.uuid)) ↔ s.PricedAt name code x := by
  simp only [mem_knownPrices, List.mem_map, rowsIn, List.mem_filter, PricedAt]
  grind

/-! ## The price of a name in a set -/

/-- The codes of the sets in which a name is stored do not differ in the case of ASCII letters
only. -/
def CodesApart (s : Store) (name : String) : Prop :=
  ∀ a ∈ s.cards, ∀ b ∈ s.cards, Text.sameFolded a.displayName name = true →
    Text.sameFolded b.displayName name = true → Text.sameFolded a.setCode b.setCode = true →
      a.setCode = b.setCode

theorem price_eq_cheapest (s : Store) (name code : String) : s.price name code =
    cheapest (s.knownPrices ((s.cards.filter fun r =>
      Text.sameFolded r.displayName name && Text.sameFolded r.setCode code).map (·.uuid))) := by
  rw [cheapest_eq_head?_mergeSort]
  rfl

theorem price_eq_of_mem_printings (apart : s.CodesApart name) (member : p ∈ s.printings name)
    (inSet : Text.sameFolded p.setCode code = true) : s.price name code = p.price := by
  obtain ⟨own, row, ownName, ownCode⟩ := mem_setCode_printings.1 (List.mem_map_of_mem member)
  have rows : (s.cards.filter fun r =>
      Text.sameFolded r.displayName name && Text.sameFolded r.setCode code) =
      s.rowsIn name p.setCode := by
    refine List.filter_congr fun r among => ?_
    rw [Text.sameFolded_iff] at inSet
    rw [Bool.eq_iff_iff, Bool.and_eq_true, Bool.and_eq_true, decide_eq_true_eq, and_comm]
    refine and_congr_left fun named => ?_
    constructor
    next =>
      intro folded
      -- Both codes are spelled like the wanted one, and so they are one.
      have same := ((Text.sameFolded_iff _ _).1 folded).trans inSet.symm
      rw [← ownCode] at same ⊢
      exact apart r among own row named ownName ((Text.sameFolded_iff _ _).2 same)
    next =>
      intro same
      rw [same]
      exact (Text.sameFolded_iff _ _).2 inSet
  rw [price_eq_cheapest, rows, price_of_mem_printings member]

theorem price_eq_none
    (absent : ∀ p ∈ s.printings name, Text.sameFolded p.setCode code = false) :
    s.price name code = none := by
  have rows : (s.cards.filter fun r =>
      Text.sameFolded r.displayName name && Text.sameFolded r.setCode code) = [] := by
    refine List.filter_eq_nil_iff.2 fun r row => ?_
    rw [Bool.and_eq_true]
    rintro ⟨named, folded⟩
    have listed : r.setCode ∈ (s.printings name).map (·.setCode) :=
      mem_setCode_printings.2 ⟨r, row, named, rfl⟩
    obtain ⟨p, member, same⟩ := List.mem_map.1 listed
    have other := absent p member
    rw [same, folded] at other
    cases other
  rw [price_eq_cheapest, rows]
  rfl

/-- A name has one printing in every set in which it is stored and no others, each with the least
price that is known for it there. Looked up in a set, the price of the name is that of the printing
there, and none if there is no such printing. -/
theorem price_eq_printing_price (apart : s.CodesApart name) :
    ((s.printings name).map (·.setCode)).Nodup ∧
    (∀ code, code ∈ (s.printings name).map (·.setCode) ↔
      ∃ r ∈ s.cards, Text.sameFolded r.displayName name = true ∧ r.setCode = code) ∧
    (∀ p ∈ s.printings name,
      (p.price = none ↔ ∀ x, ¬ s.PricedAt name p.setCode x) ∧
      ∀ x ∈ p.price, s.PricedAt name p.setCode x ∧
        ∀ y, s.PricedAt name p.setCode y → (order x y).isLE = true) ∧
    ∀ code,
      (∀ p ∈ s.printings name, Text.sameFolded p.setCode code = true →
        s.price name code = p.price) ∧
      ((∀ p ∈ s.printings name, Text.sameFolded p.setCode code = false) →
        s.price name code = none) := by
  refine ⟨nodup_printings s name, fun code => mem_setCode_printings, fun p member => ?_,
    fun code => ⟨fun p => price_eq_of_mem_printings apart, price_eq_none⟩⟩
  simp only [price_of_mem_printings member, cheapest_eq_none_iff, ← mem_knownPrices_rowsIn]
  refine ⟨List.eq_nil_iff_forall_not_mem, fun x least => ?_⟩
  exact ⟨mem_of_cheapest least, fun y => isLE_of_cheapest least⟩

/-- Two rows of one set, priced on several days and once without a price, and a set that is not
known. -/
def pricedOften : List Insertion :=
  let row (uuid setCode : String) : Insertion := .card { uuid, name := "Opt", setCode }
  [ .set ⟨"INV", "expansion", none⟩, row "opt-1" "INV", row "opt-2" "INV", row "opt-3" "PROMO",
    .price "opt-1" 0.5 (Sample.day 2020 5 1), .price "opt-2" 0.25 (Sample.day 2020 4 1),
    .price "opt-1" (0 / 0) none, .price "opt-3" 2 none ]

theorem price_eq_printing_price_opt :
    let s := ofInsertions pricedOften
    s.CodesApart "Opt" ∧ (∀ p ∈ s.printings "Opt", Text.sameFolded p.setCode "LEA" = false) ∧
      s.price "Opt" "LEA" = none ∧
      ∃ p ∈ s.printings "Opt", p.setCode = "INV" ∧ s.price "Opt" "inv" = p.price ∧
        ∃ x ∈ p.price, s.PricedAt "Opt" "INV" x ∧
          ∀ y, s.PricedAt "Opt" "INV" y → (order x y).isLE = true := by
  intro s
  have apart : s.CodesApart "Opt" := by
    unfold CodesApart
    decide +kernel
  have elsewhere : ∀ r ∈ s.cards, Text.sameFolded r.setCode "LEA" = false := by decide +kernel
  have known : ∃ r ∈ s.cards, Text.sameFolded r.displayName "Opt" = true ∧ r.setCode = "INV" ∧
      ∃ row ∈ s.prices, row.uuid = r.uuid ∧ row.price.isSome = true := by
    decide +kernel
  obtain ⟨-, codes, least, agree⟩ := price_eq_printing_price apart
  obtain ⟨r, row, named, code, priceRow, stored, uuid, given⟩ := known
  have other : ∀ p ∈ s.printings "Opt", Text.sameFolded p.setCode "LEA" = false := by
    intro p member
    obtain ⟨r, row, -, same⟩ := (codes p.setCode).1 (List.mem_map_of_mem member)
    exact same ▸ elsewhere r row
  obtain ⟨p, member, inSet⟩ := List.mem_map.1 ((codes "INV").2 ⟨r, row, named, code⟩)
  obtain ⟨missing, cheapest⟩ := least p member
  rw [inSet] at missing cheapest
  obtain ⟨x, price⟩ : ∃ x, p.price = some x := by
    refine Option.ne_none_iff_exists'.1 fun none => ?_
    obtain ⟨x, price⟩ := Option.isSome_iff_exists.1 given
    exact missing.1 none x ⟨r, row, named, code, priceRow, stored, uuid, price⟩
  have folded : Text.sameFolded p.setCode "inv" = true := by
    rw [inSet]
    decide
  exact ⟨apart, other, (agree "LEA").2 other, p, member, inSet,
    (agree "inv").1 p member folded, x, price, cheapest x price⟩

end Store

end CardCatalog
