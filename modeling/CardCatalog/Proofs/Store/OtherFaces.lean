import CardCatalog.Proofs.Store.Lookup

/-!
Cards as a catalogue answers with them, and their other faces. Main statement: the other faces of
a card are those that are loaded for it once more, one for each sibling that has a row, in the
order of the siblings, and each of them is a single face without a price, formats and rulings.
-/

set_option autoImplicit false

namespace CardCatalog.Store

/-- A card that a search answers with, which looks up every card it lists by its row and without
any wish, or that a lookup answers with. -/
inductive Answered (s : Store) : CardLookup → Card → Prop where
  | listed {query : Option (Query .any)} {o : SearchOptions} {cards : List Card} {c : Card}
    (found : s.search query o = .ok cards) (member : c ∈ cards) : s.Answered {} c
  | lookedUp {l : CardLookup} {c : Card} (found : s.getCard l = .ok c) : s.Answered l c

variable {s : Store} {l : CardLookup} {c : Card}

/-! ## The row of a card -/

theorem exists_row_of_mem_search {query : Option (Query .any)} {o : SearchOptions}
    {cards : List Card} (found : s.search query o = .ok cards) (member : c ∈ cards) :
    ∃ r ∈ s.cards, c = s.cardOf {} (s.latestPrice r.uuid) r := by
  rw [search_eq_ok] at found
  cases found
  obtain ⟨j, sorted, rfl⟩ := List.mem_map.1 member
  obtain ⟨row, joined, -, -⟩ := mem_listed (mem_listed_of_sorted sorted)
  refine ⟨j.card, row, ?_⟩
  rw [(card_of_mem_join joined).2]

-- Whatever rows are passed on the way, the wishes of the lookup are those of the last one.
theorem exists_row_of_followCard {fuel : Nat} (answered : s.followCard fuel l = .ok c) :
    ∃ r ∈ s.cards, c = s.cardOf l (s.latestPrice r.uuid) r := by
  fun_induction followCard s fuel l with
  | case1 => cases answered
  | case2 fuel l r found stays =>
    cases answered
    exact ⟨r, mem_cards_of_candidates (mem_of_found? found).1, rfl⟩
  | case3 => cases answered
  | case4 l r found next gives fuel ih =>
    obtain ⟨row, stored, rfl⟩ := ih answered
    obtain ⟨-, target, -, rfl⟩ := next?_eq_some_iff.1 gives
    exact ⟨row, stored, cardOf_eq rfl rfl rfl _ _⟩

theorem exists_token_of_lookupToken (answered : s.lookupToken l = .ok c) :
    ∃ r ∈ s.tokens, c = s.tokenCard l r := by
  simp only [lookupToken] at answered
  generalize wanted : s.tokens.filter _ = rows at answered
  split at answered
  next r first =>
    cases answered
    have among := List.mem_mergeSort.1 (List.mem_of_head? first)
    rw [← wanted] at among
    exact ⟨r, List.mem_of_mem_filter among, rfl⟩
  next => cases answered

theorem exists_row_of_getCard (card : tokenName? l.name = none) (found : s.getCard l = .ok c) :
    ∃ r ∈ s.cards, c = s.cardOf l (s.latestPrice r.uuid) r := by
  delta getCard at found
  rw [card] at found
  exact exists_row_of_followCard found

theorem exists_token_of_getCard {name : String} (token : tokenName? l.name = some name)
    (found : s.getCard l = .ok c) :
    ∃ r ∈ s.tokens, c = s.tokenCard { l with name := name, format := none } r := by
  delta getCard at found
  rw [token] at found
  exact exists_token_of_lookupToken found

theorem Answered.exists_row (answered : s.Answered l c) (card : tokenName? l.name = none) :
    ∃ r ∈ s.cards, c = s.cardOf l (s.latestPrice r.uuid) r := by
  cases answered with
  | listed found member => exact exists_row_of_mem_search found member
  | lookedUp found => exact exists_row_of_getCard card found

/-! ## Other faces -/

/-- A row that is resolved on its own gives way to none, needs no other row and cannot fail. -/
theorem resolve_singleSide (r : CardRow) :
    s.resolve { singleSide := true } none r = .ok (s.singleFace r) := rfl

theorem otherFaces_eq_map (g : FaceGroup) :
    s.otherFaces g = (g.siblings.filterMap s.card?).map s.singleFace := by
  rw [otherFaces, List.map_filterMap]

theorem mapM_resolve_siblings (g : FaceGroup) :
    (g.siblings.filterMap s.card?).mapM (s.resolve { singleSide := true } none) =
      .ok (s.otherFaces g) := by
  rw [otherFaces_eq_map]
  exact mapM_eq_ok fun r _ => resolve_singleSide r

theorem isSome_card?_iff {uuid : String} :
    (s.card? uuid).isSome = true ↔ uuid ∈ s.cards.map (·.uuid) := by
  simp [card?, List.find?_isSome]

theorem map_uuid_filterMap_card? (uuids : List String) :
    (uuids.filterMap s.card?).map (·.uuid) =
      uuids.filter fun uuid => uuid ∈ s.cards.map (·.uuid) := by
  induction uuids with
  | nil => rfl
  | cons uuid rest ih =>
    cases found : s.card? uuid with
    | none =>
      have missing : uuid ∉ s.cards.map (·.uuid) := by
        rw [← isSome_card?_iff, found]
        exact Bool.false_ne_true
      rw [List.filterMap_cons_none found, ih, List.filter_cons_of_neg (by simpa using missing)]
    | some r =>
      have stored : uuid ∈ s.cards.map (·.uuid) := by
        rw [← isSome_card?_iff, found]
        rfl
      have same : r.uuid = uuid := by simpa using List.find?_some found
      rw [List.filterMap_cons_some found, List.map_cons, ih, same,
        List.filter_cons_of_pos (by simpa using stored)]

theorem map_uuid_otherFaces (g : FaceGroup) :
    (s.otherFaces g).map (·.group.uuid) =
      g.siblings.filter fun uuid => uuid ∈ s.cards.map (·.uuid) := by
  rw [otherFaces_eq_map, List.map_map, ← map_uuid_filterMap_card?]
  rfl

theorem exists_row_of_mem_otherFaces {g : FaceGroup} {f : Card} (member : f ∈ s.otherFaces g) :
    ∃ r ∈ s.cards, f = s.singleFace r := by
  rw [otherFaces_eq_map] at member
  obtain ⟨r, among, rfl⟩ := List.mem_map.1 member
  obtain ⟨uuid, -, found⟩ := List.mem_filterMap.1 among
  exact ⟨r, mem_cards_of_card? found, rfl⟩

theorem otherFaces_cardOf (whole : l.singleSide = false) (price : Option PriceRow) (r : CardRow) :
    (s.cardOf l price r).otherFaces = s.otherFaces (s.cardOf l price r).group := by
  simp [cardOf, whole]

/-- A token has no siblings, and so no other faces. -/
theorem otherFaces_tokenCard (r : TokenRow) :
    (s.tokenCard l r).otherFaces = s.otherFaces (s.tokenCard l r).group := rfl

theorem Answered.otherFaces_eq (answered : s.Answered l c) (whole : l.singleSide = false) :
    c.otherFaces = s.otherFaces c.group := by
  cases named : tokenName? l.name with
  | none =>
    obtain ⟨r, -, rfl⟩ := answered.exists_row named
    exact otherFaces_cardOf whole _ r
  | some name =>
    cases answered with
    | listed => cases named
    | lookedUp found =>
      obtain ⟨r, -, rfl⟩ := exists_token_of_getCard named found
      exact otherFaces_tokenCard r

/-- The other faces of a card that is answered whole, be it a token, are those that are loaded for
it once more: the rows of its siblings in their order, each resolved on its own, where a sibling
without a row is passed over. None of them has faces, a price, formats or rulings of its own. -/
theorem otherFaces_of_answered (answered : s.Answered l c) (whole : l.singleSide = false) :
    s.otherFaces c.group = c.otherFaces ∧
    (c.group.siblings.filterMap s.card?).mapM (s.resolve { singleSide := true } none) =
      .ok c.otherFaces ∧
    c.otherFaces.map (·.group.uuid) =
      (c.group.siblings.filter fun uuid => uuid ∈ s.cards.map (·.uuid)) ∧
    ∀ f ∈ c.otherFaces,
      f.otherFaces = [] ∧ f.price = none ∧ f.formats = none ∧ f.rulings = none := by
  rw [answered.otherFaces_eq whole]
  refine ⟨rfl, mapM_resolve_siblings _, map_uuid_otherFaces _, fun f member => ?_⟩
  obtain ⟨r, -, rfl⟩ := exists_row_of_mem_otherFaces member
  exact ⟨rfl, rfl, rfl, rfl⟩

/-- One of the two cards that meld is not in the catalogue. -/
def halfMelded : List Insertion :=
  [.set ⟨"EMN", "expansion", none⟩] ++
    (Sample.brisela.filter (·.uuid ≠ "gisela-emn")).map .card ++
    [.price "bruna-emn" 3.5 none, .legality "bruna-emn" ⟨"modern", "Legal"⟩]

theorem otherFaces_of_answered_brisela :
    let s := ofInsertions halfMelded
    let l : CardLookup :=
      { name := "Brisela, Voice of Nightmares", verbose := true, rulings := true }
    ∃ c, s.Answered l c ∧ l.singleSide = false ∧
      c.group.siblings = ["bruna-emn", "gisela-emn"] ∧ s.otherFaces c.group = c.otherFaces ∧
      c.otherFaces.map (·.group.uuid) = ["bruna-emn"] ∧
      ∀ f ∈ c.otherFaces,
        f.otherFaces = [] ∧ f.price = none ∧ f.formats = none ∧ f.rulings = none := by
  intro s l
  have siblings : (s.getCard l).toOption.map (·.group.siblings) =
      some ["bruna-emn", "gisela-emn"] := by
    decide +kernel
  have stored : s.cards.map (·.uuid) = ["bruna-emn", "brisela-emn"] := by decide +kernel
  cases found : s.getCard l with
  | error e => simp [found, Except.toOption] at siblings
  | ok c =>
    have siblings : c.group.siblings = ["bruna-emn", "gisela-emn"] := by
      simpa [found, Except.toOption] using siblings
    have answered : s.Answered l c := .lookedUp found
    obtain ⟨same, -, uuids, single⟩ := otherFaces_of_answered answered rfl
    rw [siblings, stored] at uuids
    exact ⟨c, answered, rfl, siblings, same, uuids, single⟩

end CardCatalog.Store
