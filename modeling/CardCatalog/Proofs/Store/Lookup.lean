import CardCatalog.Proofs.Store.Listing
import CardCatalog.Store.Sample

/-!
What a lookup answers. Main statements: the card of a lookup stands for itself, is of the wanted
set and is reached from a row of the wanted name through rows that give way to one another; and a
listed card is found again under its name and set.
-/

set_option autoImplicit false

namespace CardCatalog

/-- A name that asks for a token. -/
def NamesToken (name : String) : Prop :=
  " token".toList <:+ (Text.fold name).toList

instance (name : String) : Decidable (NamesToken name) :=
  inferInstanceAs (Decidable (_ <:+ _))

theorem tokenName?_eq_none {name : String} (card : ¬ NamesToken name) :
    tokenName? name = none := by
  refine if_neg ?_
  rintro ⟨-, suffix⟩
  refine card ⟨(name.toList.take (name.toList.length - 6)).map Char.toLower, ?_⟩
  rw [← suffix, Text.toList_fold, Text.toList_fold, String.toList_ofList, ← List.map_append,
    List.take_append_drop]

/-! ## Rows that give way -/

namespace CardRow

theorem isPaper_iff {r : CardRow} :
    r.isPaper = true ↔ "paper" ∈ NameList.names r.availability :=
  List.contains_iff_mem

theorem redirect?_eq_some_iff {r : CardRow} {target : String} :
    r.redirect? = some target ↔ (Layout.ofName r.layout).sharesSide = true ∧
      r.sideOf = some .b ∧ (faceNames r.name).head? = some target ∧
      Text.sameFolded target r.displayName = false := by
  unfold redirect? wholeCardName
  rw [Option.filter_eq_some_iff]
  split
  next stands => simp_all
  next stands => simp_all

theorem redirect?_eq_none_iff {r : CardRow} :
    r.redirect? = none ↔ ∀ target ∈ wholeCardName (Layout.ofName r.layout) r.sideOf
      (faceNames r.name), Text.sameFolded target r.displayName = true := by
  simp [redirect?, Option.filter_eq_none_iff]

/-- A row that never stands for its card, with a row of the same set under the name of the card's
first face. -/
structure GivesWay (r next : CardRow) : Prop where
  shares : (Layout.ofName r.layout).sharesSide = true
  second : r.sideOf = some .b
  named : ∃ first ∈ (faceNames r.name).head?, Text.sameFolded next.displayName first = true
  sameSet : Text.sameFolded next.setCode r.setCode = true

end CardRow

namespace Store

/-- What a row gives way to: the row that is found for the whole card. -/
def Redirects (s : Store) (r next : CardRow) : Prop :=
  ∃ target, r.redirect? = some target ∧
    s.found? { name := target, setCode := some r.setCode } = some next

/-- No row gives way, through others, to itself. -/
def Acyclic (s : Store) : Prop :=
  ∀ r, ¬ Relation.TransGen s.Redirects r r

variable {s : Store} {l next : CardLookup} {r : CardRow} {c : Card}

theorem next?_eq_some_iff :
    next? l r = some next ↔ l.singleSide = false ∧ ∃ target, r.redirect? = some target ∧
      next = { l with name := target, setCode := some r.setCode, format := none } := by
  unfold next?
  split
  next single => simp [single]
  next whole => simp [whole, eq_comm]

theorem mem_cards_of_card? {uuid : String} (found : s.card? uuid = some r) : r ∈ s.cards :=
  List.mem_of_find?_eq_some found

theorem mem_cards_of_candidates (member : r ∈ s.candidates l) : r ∈ s.cards := by
  unfold candidates at member
  split at member
  next => exact member
  next =>
    obtain ⟨row, -, found⟩ := List.mem_filterMap.1 member
    exact mem_cards_of_card? found

theorem answers_iff : answers l r = true ↔ Text.sameFolded r.displayName l.name = true ∧
    r.isPaper = true ∧ ∀ code ∈ l.setCode, Text.sameFolded r.setCode code = true := by
  unfold answers
  cases l.setCode <;> simp [and_assoc]

theorem mem_of_found? (found : s.found? l = some r) : r ∈ s.candidates l ∧ answers l r = true := by
  have member := List.mem_of_head? found
  rw [preferred, List.mem_mergeSort] at member
  exact List.mem_filter.1 member

theorem exists_found? (member : r ∈ s.candidates l) (wanted : answers l r = true) :
    ∃ first, s.found? l = some first := by
  refine Option.isSome_iff_exists.1 (List.isSome_head?.2 ?_)
  refine List.ne_nil_of_mem (a := r) ?_
  rw [preferred, List.mem_mergeSort]
  exact List.mem_filter.2 ⟨member, wanted⟩

/-- The rows through which a lookup comes to a card. -/
structure Route (s : Store) (l : CardLookup) (c : Card) (rows : List CardRow) : Prop where
  stored : ∀ r ∈ rows, r ∈ s.cards ∧ r.isPaper = true ∧ Text.sameFolded r.setCode c.setCode = true
  chain : rows.IsChain CardRow.GivesWay
  start : ∃ r ∈ rows.head?, Text.sameFolded r.displayName l.name = true
  set : ∀ code ∈ l.setCode, Text.sameFolded c.setCode code = true
  stop : ∃ r ∈ rows.getLast?, r.redirect? = none ∧ c = s.cardOf l (s.latestPrice r.uuid) r

theorem next?_eq_none_iff (whole : l.singleSide = false) :
    next? l r = none ↔ r.redirect? = none := by
  simp [next?, whole]

theorem cardOf_eq {k : CardLookup} (single : k.singleSide = l.singleSide)
    (verbose : k.verbose = l.verbose) (rulings : k.rulings = l.rulings) (price : Option PriceRow)
    (r : CardRow) : s.cardOf k price r = s.cardOf l price r := by
  simp only [cardOf, face, single, verbose, rulings]

theorem Route.found (found : s.found? l = some r)
    (stays : r.redirect? = none) : s.Route l (s.cardOf l (s.latestPrice r.uuid) r) [r] := by
  obtain ⟨member, wanted⟩ := mem_of_found? found
  obtain ⟨named, paper, inSet⟩ := answers_iff.1 wanted
  refine ⟨?_, .singleton r, ⟨r, rfl, named⟩, inSet, ⟨r, rfl, stays, rfl⟩⟩
  intro other same
  cases List.mem_singleton.1 same
  exact ⟨mem_cards_of_candidates member, paper, (Text.sameFolded_iff _ _).2 rfl⟩

theorem Route.passed (found : s.found? l = some r) (gives : next? l r = some next)
    {rows : List CardRow} (route : s.Route next c rows) : s.Route l c (r :: rows) := by
  obtain ⟨member, wanted⟩ := mem_of_found? found
  obtain ⟨named, paper, inSet⟩ := answers_iff.1 wanted
  obtain ⟨whole, target, redirect, rfl⟩ := next?_eq_some_iff.1 gives
  obtain ⟨shares, second, first, -⟩ := CardRow.redirect?_eq_some_iff.1 redirect
  obtain ⟨head, isHead, headNamed⟩ := route.start
  -- The set of the card is that of the row that is left: the next lookup asks for it.
  have sameSet := (Text.sameFolded_iff _ _).1 (route.set r.setCode rfl)
  refine ⟨?_, ?_, ⟨r, rfl, named⟩, ?_, ?_⟩
  next =>
    intro other among
    rcases List.mem_cons.1 among with rfl | among
    next => exact ⟨mem_cards_of_candidates member, paper, (Text.sameFolded_iff _ _).2 sameSet.symm⟩
    next => exact route.stored other among
  next =>
    refine List.isChain_cons.2 ⟨fun next isNext => ?_, route.chain⟩
    cases isHead.symm.trans isNext
    have headSet := (Text.sameFolded_iff _ _).1 (route.stored head (List.mem_of_head? isHead)).2.2
    exact ⟨shares, second, ⟨target, first, headNamed⟩,
      (Text.sameFolded_iff _ _).2 (headSet.trans sameSet)⟩
  next =>
    intro code wanted
    have rowSet := (Text.sameFolded_iff _ _).1 (inSet code wanted)
    exact (Text.sameFolded_iff _ _).2 (sameSet.trans rowSet)
  next =>
    obtain ⟨last, isLast, stays, rfl⟩ := route.stop
    refine ⟨last, ?_, stays, cardOf_eq rfl rfl rfl _ _⟩
    rw [List.getLast?_cons, Option.mem_def.1 isLast]
    rfl

theorem whole_of_next? (gives : next? l r = some next) : next.singleSide = false := by
  obtain ⟨whole, target, -, rfl⟩ := next?_eq_some_iff.1 gives
  exact whole

theorem exists_route_of_followCard (whole : l.singleSide = false) {fuel : Nat}
    (answered : s.followCard fuel l = .ok c) : ∃ rows, s.Route l c rows := by
  fun_induction followCard s fuel l with
  | case1 => cases answered
  | case2 fuel l r found stays =>
    cases answered
    exact ⟨_, .found found ((next?_eq_none_iff whole).1 stays)⟩
  | case3 => cases answered
  | case4 l r found next gives fuel ih =>
    obtain ⟨rows, route⟩ := ih (whole_of_next? gives) answered
    exact ⟨_, route.passed found gives⟩

/-! ## Lookups that go round in a circle -/

theorem found?_next? (gives : next? l r = some next) :
    s.found? next = s.found? { name := next.name, setCode := some r.setCode } := by
  obtain ⟨-, target, -, rfl⟩ := next?_eq_some_iff.1 gives
  rfl

theorem exists_rows_of_circular {fuel : Nat} {name : String}
    (fails : s.followCard fuel l = .error (.circularFaces name)) :
    ∃ rows, rows.length = fuel + 1 ∧ rows.IsChain s.Redirects ∧ rows ⊆ s.cards ∧
      rows.head? = s.found? l := by
  -- Each step down adds the row that was found in front of the chain.
  fun_induction followCard s fuel l with
  | case1 => cases fails
  | case2 => cases fails
  | case3 l r found next gives =>
    refine ⟨[r], rfl, .singleton r, ?_, found.symm⟩
    exact List.cons_subset.2 ⟨mem_cards_of_candidates (mem_of_found? found).1, List.nil_subset _⟩
  | case4 l r found next gives fuel ih =>
    obtain ⟨rows, length, chain, stored, head⟩ := ih fails
    refine ⟨r :: rows, by simp [length], ?_, ?_, found.symm⟩
    next =>
      refine List.isChain_cons.2 ⟨fun row isHead => ?_, chain⟩
      obtain ⟨-, target, redirect, rfl⟩ := next?_eq_some_iff.1 gives
      refine ⟨target, redirect, ?_⟩
      rw [← found?_next? gives, ← head]
      exact isHead
    next => exact List.cons_subset.2 ⟨mem_cards_of_candidates (mem_of_found? found).1, stored⟩

theorem nodup_of_acyclic (acyclic : s.Acyclic) {rows : List CardRow}
    (chain : rows.IsChain s.Redirects) : rows.Nodup := by
  have steps : rows.IsChain (Relation.TransGen s.Redirects) :=
    chain.imp fun _ _ step => .single step
  refine steps.pairwise.imp ?_
  rintro a _ path rfl
  exact acyclic a path

-- A row more than there are rows would have to be passed before the count runs out.
theorem lookupCard_ne_circular (acyclic : s.Acyclic) (l : CardLookup) (name : String) :
    s.lookupCard l ≠ .error (.circularFaces name) := by
  intro fails
  obtain ⟨rows, length, chain, stored, -⟩ := exists_rows_of_circular fails
  have few := ((nodup_of_acyclic acyclic chain).subperm stored).length_le
  omega

theorem acyclic_of_stands
    (stands : ∀ r ∈ s.cards, ∀ next, s.Redirects r next → next.redirect? = none) : s.Acyclic := by
  intro r path
  have stored : r ∈ s.cards := by
    obtain ⟨before, -, target, -, found⟩ := Relation.TransGen.tail'_iff.1 path
    exact mem_cards_of_candidates (mem_of_found? found).1
  obtain ⟨next, step, rest⟩ := Relation.TransGen.head'_iff.1 path
  have last := stands r stored next step
  -- Back to the first row, or on to another one: the next row gives way in turn.
  have further : ∃ other, s.Redirects next other := by
    rcases rest.cases_head with rfl | ⟨other, again, -⟩
    next => exact ⟨next, step⟩
    next => exact ⟨other, again⟩
  obtain ⟨other, target, redirect, -⟩ := further
  rw [last] at redirect
  cases redirect

theorem getCard_eq_lookupCard (card : ¬ NamesToken l.name) : s.getCard l = s.lookupCard l := by
  -- Its equation lemma would take longer to prove than all of this module.
  delta getCard
  rw [tokenName?_eq_none card]

/-- A lookup goes round for ever only where rows give way to one another in a circle. The card
that it answers with stands for itself, is of the wanted set, and has the wanted name or is reached
through rows of its set that give way to one another. -/
theorem getCard_canonical (whole : l.singleSide = false) (card : ¬ NamesToken l.name) :
    (s.Acyclic → ∀ name, s.getCard l ≠ .error (.circularFaces name)) ∧
    ∀ c, s.getCard l = .ok c →
      (∀ target ∈ wholeCardName c.layout c.side c.names,
        Text.sameFolded target c.name = true) ∧
      (c.side = some .b → c.layout ∈ [.flip, .adventure, .split, .aftermath] →
        ∀ first ∈ c.names.head?, Text.sameFolded first c.name = true) ∧
      (∀ code ∈ l.setCode, Text.sameFolded c.setCode code = true) ∧
      ∃ rows : List CardRow, (∀ r ∈ rows, r ∈ s.cards ∧ r.isPaper = true ∧
          Text.sameFolded r.setCode c.setCode = true) ∧
        rows.IsChain CardRow.GivesWay ∧
        (∃ r ∈ rows.head?, Text.sameFolded r.displayName l.name = true) ∧
        (∃ r ∈ rows.getLast?, c = s.cardOf l (s.latestPrice r.uuid) r) ∧
        (Text.sameFolded c.name l.name = true ∨ 1 < rows.length) := by
  rw [getCard_eq_lookupCard card]
  refine ⟨fun acyclic => lookupCard_ne_circular acyclic l, fun c answered => ?_⟩
  obtain ⟨rows, route⟩ := exists_route_of_followCard whole answered
  obtain ⟨last, isLast, stays, rfl⟩ := route.stop
  have canonical := CardRow.redirect?_eq_none_iff.1 stays
  refine ⟨canonical, ?_, route.set, rows, route.stored, route.chain, route.start,
    ⟨last, isLast, rfl⟩, ?_⟩
  next =>
    intro second layout first isFirst
    refine canonical first ?_
    have shares : (Layout.ofName last.layout).sharesSide = true := by
      revert layout
      simp only [cardOf, face]
      cases Layout.ofName last.layout <;> simp [Layout.sharesSide]
    have isB : last.sideOf = some .b := second
    have named : (faceNames last.name).head? = some first := isFirst
    simp [wholeCardName, shares, isB, named]
  next =>
    -- The card of a single row has the name by which the row was found.
    obtain ⟨first, isFirst, named⟩ := route.start
    rcases rows with _ | ⟨row, _ | ⟨other, rest⟩⟩
    next => cases isFirst
    next =>
      cases isFirst
      cases isLast
      exact .inl named
    next => exact .inr (by simp)

def adventure : List Insertion :=
  .set ⟨"ELD", "expansion", none⟩ :: Sample.bonecrusherGiant.map .card

theorem acyclic_adventure : (ofInsertions adventure).Acyclic := by
  have stands : ∀ r ∈ (ofInsertions adventure).cards, ∀ target ∈ r.redirect?,
      ∀ next ∈ (ofInsertions adventure).found? { name := target, setCode := some r.setCode },
        next.redirect? = none := by
    decide +kernel
  refine acyclic_of_stands fun r stored next ⟨target, redirect, found⟩ => ?_
  exact stands r stored target redirect next found

theorem getCard_canonical_stomp :
    let s := ofInsertions adventure
    let l : CardLookup := { name := "STOMP" }
    l.singleSide = false ∧ ¬ NamesToken l.name ∧ s.Acyclic ∧
      (∀ name, s.getCard l ≠ .error (.circularFaces name)) ∧
      ∃ c, s.getCard l = .ok c ∧ c.name = "Bonecrusher Giant" ∧
        ∃ rows : List CardRow, 1 < rows.length ∧ rows.IsChain CardRow.GivesWay := by
  intro s l
  have card : ¬ NamesToken l.name := by decide
  obtain ⟨ends, canonical⟩ := getCard_canonical (s := s) (l := l) rfl card
  have name : (s.getCard l).toOption.map (·.name) = some "Bonecrusher Giant" := by
    decide +kernel
  refine ⟨rfl, card, acyclic_adventure, ends acyclic_adventure, ?_⟩
  cases answered : s.getCard l with
  | error e => simp [answered, Except.toOption] at name
  | ok c =>
    have named : c.name = "Bonecrusher Giant" := by
      simpa [answered, Except.toOption] using name
    obtain ⟨-, -, -, rows, -, chain, -, -, same | passed⟩ := canonical c answered
    next =>
      rw [named] at same
      exact absurd same (by decide)
    next => exact ⟨c, rfl, named, rows, passed, chain⟩

/-! ## Listed cards looked up -/

theorem followCard_of_stays (fuel : Nat) (found : s.found? l = some r) (stays : next? l r = none) :
    s.followCard fuel l = .ok (s.cardOf l (s.latestPrice r.uuid) r) := by
  unfold followCard
  simp only [found, stays]

theorem followCard_of_gives (fuel : Nat) (found : s.found? l = some r)
    (gives : next? l r = some next) : s.followCard (fuel + 1) l = s.followCard fuel next := by
  rw [followCard]
  simp only [found, gives]

theorem found?_of_unique (consistent : s.Consistent) (anyFormat : l.format = none)
    (row : r ∈ s.cards) (wanted : answers l r = true)
    (unique : ∀ other ∈ s.cards, answers l other = true → other.uuid = r.uuid) :
    s.found? l = some r := by
  have all : s.candidates l = s.cards := by simp [candidates, anyFormat]
  obtain ⟨first, found⟩ := exists_found? (all ▸ row) wanted
  obtain ⟨among, answered⟩ := mem_of_found? found
  rw [all] at among
  rw [found, List.inj_on_of_nodup_map consistent.cards among row (unique first among answered)]

theorem isPaper_of_listable (listable : r.Listable) : r.isPaper = true := by
  have kept := isListable_iff.2 listable
  simp only [isListable, Bool.and_eq_true] at kept
  exact kept.1.1

theorem getCard_of_listable {name : String} {setCode : Option String} (consistent : s.Consistent)
    (row : r ∈ s.cards) (listable : r.Listable) (card : ¬ NamesToken name)
    (wanted : answers { name, setCode } r = true)
    (unique : ∀ other ∈ s.cards, answers { name, setCode } other = true → other.uuid = r.uuid) :
    s.getCard { name, setCode } = .ok (s.cardOf {} (s.latestPrice r.uuid) r) := by
  let l : CardLookup := { name, setCode }
  have found : s.found? l = some r := found?_of_unique consistent rfl row wanted unique
  calc s.getCard l
    _ = s.lookupCard l := getCard_eq_lookupCard card
    _ = .ok (s.cardOf l (s.latestPrice r.uuid) r) :=
      followCard_of_stays _ found (next?_eq_none listable.primary)
    _ = .ok (s.cardOf {} (s.latestPrice r.uuid) r) :=
      congrArg Except.ok (cardOf_eq rfl rfl rfl _ _)

theorem getCard_of_listable_inSet (consistent : s.Consistent) (row : r ∈ s.cards)
    (listable : r.Listable) (card : ¬ NamesToken r.displayName)
    (unique : ∀ other ∈ s.cards, other.isPaper = true →
      Text.sameFolded other.setCode r.setCode = true →
      Text.sameFolded other.displayName r.displayName = true → other.uuid = r.uuid) :
    s.getCard { name := r.displayName, setCode := some r.setCode } =
      .ok (s.cardOf {} (s.latestPrice r.uuid) r) := by
  refine getCard_of_listable consistent row listable card ?_ fun other among answered => ?_
  next => simp [answers, Text.sameFolded, isPaper_of_listable listable]
  next =>
    obtain ⟨named, paper, inSet⟩ := answers_iff.1 answered
    exact unique other among paper (inSet _ rfl) named

/-- A listed card is found again, the same in every part, under its name and its set, unless
another paper row of the set has its name. -/
theorem getCard_of_mem_search (insertions : List Insertion) (query : Option (Query .any))
    (o : SearchOptions) :
    let s := ofInsertions insertions
    ∃ cards, s.search query o = .ok cards ∧ ∀ c ∈ cards, ¬ NamesToken c.name →
      (∀ r ∈ s.cards, r.isPaper = true → Text.sameFolded r.setCode c.setCode = true →
        Text.sameFolded r.displayName c.name = true → r.uuid = c.group.uuid) →
      s.getCard { name := c.name, setCode := some c.setCode } = .ok c := by
  have consistent := consistent_ofInsertions insertions
  refine ⟨_, search_eq_ok _ query o, fun c member card unique => ?_⟩
  obtain ⟨j, listed, rfl⟩ := List.mem_map.1 member
  obtain ⟨row, joined, listable, -⟩ := mem_listed (mem_listed_of_sorted listed)
  rw [(card_of_mem_join joined).2] at card unique ⊢
  exact getCard_of_listable_inSet consistent row listable card unique

def printedTwice : List Insertion :=
  [ .set ⟨"A25", "masters", none⟩, .set ⟨"M15", "core", none⟩,
    .card (Sample.serraAngel "serra-a25" "A25"), .card (Sample.serraAngel "serra-m15" "M15"),
    .price "serra-a25" 0.35 none ]

-- Without the set the lookup would prefer the other printing.
theorem getCard_of_mem_search_reprint :
    let s := ofInsertions printedTwice
    ∃ c, s.search none {} = .ok [c] ∧ c.group.uuid = "serra-a25" ∧ ¬ NamesToken c.name ∧
      (∀ r ∈ s.cards, r.isPaper = true → Text.sameFolded r.setCode c.setCode = true →
        Text.sameFolded r.displayName c.name = true → r.uuid = c.group.uuid) ∧
      s.getCard { name := c.name, setCode := some c.setCode } = .ok c := by
  intro s
  obtain ⟨cards, listed, again⟩ := getCard_of_mem_search printedTwice none {}
  have parts : (s.search none {}).toOption.map (·.map fun c => (c.name, c.setCode, c.group.uuid)) =
      some [("Serra Angel", "A25", "serra-a25")] := by
    decide +kernel
  obtain ⟨c, rfl, same⟩ : ∃ c, cards = [c] ∧
      (c.name, c.setCode, c.group.uuid) = ("Serra Angel", "A25", "serra-a25") := by
    rw [listed] at parts
    exact List.map_eq_singleton_iff.1 (Option.some.inj parts)
  simp only [Prod.mk.injEq] at same
  obtain ⟨named, inSet, uuid⟩ := same
  have card : ¬ NamesToken c.name := by
    rw [named]
    decide
  have unique : ∀ r ∈ s.cards, r.isPaper = true → Text.sameFolded r.setCode c.setCode = true →
      Text.sameFolded r.displayName c.name = true → r.uuid = c.group.uuid := by
    rw [named, inSet, uuid]
    decide +kernel
  exact ⟨c, listed, uuid, card, unique, again c (List.mem_singleton.2 rfl) card unique⟩

end Store

end CardCatalog
