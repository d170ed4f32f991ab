import CardCatalog.Proofs.Query.Dependence
import CardCatalog.Proofs.Query.Recovery
import CardCatalog.Proofs.Store.Listing

/-!
The names that a condition finds, and what becomes of them when conditions are combined. Main
statements: alternatives find the union; conditions that must both hold find the intersection,
where no more than one legality is looked at; and a condition and its denial find what is listed
at all, but for what is unknown.
-/

set_option autoImplicit false

namespace CardCatalog

namespace Store

/-- The names that a search without a limit finds for a condition. -/
def names (s : Store) (f : Query.Fragment) : Set String :=
  { name | ∃ query o cards, Query.conditionOf query = f ∧ o.limit = none ∧
    s.search query o = .ok cards ∧ name ∈ cards.map (·.name) }

theorem satisfies_eq {s : Store} {p q : Option (Query .any)}
    (same : Query.conditionOf p = Query.conditionOf q) : s.satisfies p = s.satisfies q := by
  funext j
  -- The empty condition is that of no query, and others are known up to groups.
  have nonempty (q : Query .any) : q.fragment ≠ Query.Fragment.empty := by
    intro empty
    have text := q.isEmpty_fragment
    simp [empty, Query.Fragment.isEmpty, Query.Fragment.empty] at text
  cases p with
  | none =>
    cases q with
    | none => rfl
    | some q => exact absurd same.symm (nonempty q)
  | some p =>
    cases q with
    | none => exact absurd same (nonempty p)
    | some q => simp only [satisfies, Query.truth, Query.eval_eq_of_fragment_eq same]

/-- Every search without a limit finds the names of its condition, however it is written and
sorted. -/
theorem mem_names_of_search {s : Store} {query : Option (Query .any)} {o : SearchOptions}
    (unlimited : o.limit = none) {cards : List Card} (found : s.search query o = .ok cards)
    {name : String} :
    name ∈ s.names (Query.conditionOf query) ↔ name ∈ cards.map (·.name) := by
  constructor
  next =>
    rintro ⟨other, o', cards', same, unlimited', found', member⟩
    have listed : s.listed other = s.listed query := by
      simp only [listed, satisfies_eq same]
    rw [(s.names_search other unlimited' found').mem_iff, listed] at member
    exact (s.names_search query unlimited found).mem_iff.2 member
  next =>
    intro member
    exact ⟨query, o, cards, rfl, unlimited, found, member⟩

theorem mem_names_iff_listed {s : Store} {query : Option (Query .any)} {name : String} :
    name ∈ s.names (Query.conditionOf query) ↔
      name ∈ (s.listed query).map (·.card.displayName) := by
  have found := s.search_eq_ok query {}
  rw [mem_names_of_search rfl found, (s.names_search query rfl found).mem_iff]

theorem mem_names_fragment {s : Store} {q : Query .any} {name : String} :
    name ∈ s.names q.fragment ↔ name ∈ (s.listed (some q)).map (·.card.displayName) := by
  rw [← mem_names_iff_listed]
  rfl

theorem mem_names_empty_iff_listed {s : Store} {name : String} :
    name ∈ s.names .empty ↔ name ∈ (s.listed none).map (·.card.displayName) := by
  rw [← mem_names_iff_listed]
  rfl

theorem mem_names_empty {s : Store} {name : String} :
    name ∈ s.names .empty ↔ ∃ r ∈ s.cards, r.displayName = name ∧ r.Listable ∧
      ∃ j, j ∈ s.join r := by
  rw [mem_names_empty_iff_listed, mem_names_listed]
  simp [satisfies]

theorem mem_names {s : Store} {q : Query .any} {name : String} :
    name ∈ s.names q.fragment ↔ ∃ r ∈ s.cards, r.displayName = name ∧ r.Listable ∧
      ∃ j ∈ s.join r, q.truth s j = .yes := by
  rw [mem_names_fragment, mem_names_listed]
  simp only [satisfies, Truth.holds_iff]

theorem names_eq_of_truth {s : Store} {p q : Query .any}
    (same : ∀ j, p.truth s j = q.truth s j) : s.names p.fragment = s.names q.fragment := by
  ext name
  simp only [mem_names, same]

end Store

namespace Query

/-! ## Conditions combined -/

def alone (t : Term) : Query .any :=
  .only (.one (.term t))

def both (p q : Query .any) : Query .any :=
  .only (.and (.one (.group p)) (.group q))

def either (p q : Query .any) : Query .any :=
  .or (.only (.one (.group p))) (.one (.group q))

def denied (q : Query .any) : Query .any :=
  .only (.one (.not (.group q)))

section

variable (s : Store) (p q : Query .any) (j : JoinedRow)

theorem fragment_both : (both p q).fragment = p.fragment.group.and q.fragment.group :=
  rfl

theorem truth_both : (both p q).truth s j = (p.truth s j).and (q.truth s j) :=
  rfl

theorem fragment_either : (either p q).fragment = p.fragment.group.or q.fragment.group :=
  rfl

theorem truth_either : (either p q).truth s j = (p.truth s j).or (q.truth s j) :=
  rfl

theorem fragment_denied : (denied q).fragment = q.fragment.group.negate :=
  rfl

theorem truth_denied : (denied q).truth s j = (q.truth s j).not :=
  rfl

end

end Query

namespace Store

open Query

theorem mem_names_both {s : Store} {p q : Query .any} {name : String} :
    name ∈ s.names (both p q).fragment ↔ ∃ r ∈ s.cards, r.displayName = name ∧ r.Listable ∧
      ∃ j ∈ s.join r, p.truth s j = .yes ∧ q.truth s j = .yes := by
  simp only [mem_names, truth_both, Truth.and_eq_yes]

theorem names_both_subset (s : Store) (p q : Query .any) :
    s.names (both p q).fragment ⊆ s.names p.fragment ∩ s.names q.fragment := by
  intro name found
  obtain ⟨r, row, named, listable, j, joined, first, second⟩ := mem_names_both.1 found
  rw [Set.mem_inter_iff, mem_names, mem_names]
  exact ⟨⟨r, row, named, listable, j, joined, first⟩, r, row, named, listable, j, joined, second⟩

theorem names_both_comm (s : Store) (p q : Query .any) :
    s.names (both p q).fragment = s.names (both q p).fragment :=
  names_eq_of_truth fun _ => Truth.and_comm _ _

/-- Alternatives find the union. Conditions that must both hold find the same in either order and
nothing that one of them does not find; denying twice changes nothing, and to deny alternatives
is to deny each. -/
theorem names_laws (s : Store) (p q : Query .any) :
    s.names (p.fragment.group.or q.fragment.group) = s.names p.fragment ∪ s.names q.fragment ∧
    s.names (p.fragment.group.and q.fragment.group) =
      s.names (q.fragment.group.and p.fragment.group) ∧
    s.names (p.fragment.group.and q.fragment.group) ⊆ s.names p.fragment ∩ s.names q.fragment ∧
    s.names p.fragment.group.negate.negate = s.names p.fragment ∧
    s.names (p.fragment.group.or q.fragment.group).group.negate =
      s.names (p.fragment.group.negate.and q.fragment.group.negate) := by
  refine ⟨?_, ?_, ?_, ?_, ?_⟩
  next =>
    ext name
    rw [← fragment_either, Set.mem_union]
    simp only [mem_names, truth_either, Truth.or_eq_yes]
    grind
  next =>
    exact s.names_both_comm p q
  next =>
    exact s.names_both_subset p q
  next =>
    have twice : p.fragment.group.negate.negate =
        Query.fragment (.only (.one (.not (.not (.group p))))) := rfl
    rw [twice]
    exact names_eq_of_truth fun j => Truth.not_not _
  next =>
    have each : p.fragment.group.negate.and q.fragment.group.negate =
        Query.fragment (.only (.and (.one (.not (.group p))) (.not (.group q)))) := rfl
    rw [← fragment_either, ← fragment_denied, each]
    exact names_eq_of_truth fun j => Truth.not_or _ _

/-! ## Catalogues in which no two rows have one name -/

theorem eq_of_joinsLegality {s : Store} {r : CardRow} {l k : Option Legality}
    (few : (s.legalitiesOf r.uuid).length ≤ 1) (first : JoinsLegality s r l)
    (second : JoinsLegality s r k) : l = k := by
  rcases own : s.legalitiesOf r.uuid with _ | ⟨a, _ | ⟨b, rest⟩⟩
  case cons.cons => simp [own] at few
  all_goals cases l <;> cases k <;> simp_all [joinsLegality_some, joinsLegality_none]

theorem eq_of_mem_join {s : Store} {r : CardRow} {i j : JoinedRow}
    (few : (s.legalitiesOf r.uuid).length ≤ 1) (first : i ∈ s.join r) (second : j ∈ s.join r) :
    i = j := by
  obtain ⟨set, l, found, joins, rfl⟩ := mem_join.1 first
  obtain ⟨set', l', found', joins', rfl⟩ := mem_join.1 second
  cases found.symm.trans found'
  rw [eq_of_joinsLegality few joins joins']

theorem truth_eq_of_mem_join {s : Store} {r : CardRow} {i j : JoinedRow} {q : Query .any}
    (plain : ∀ t ∈ q.terms, t.keyword ≠ .legal) (first : i ∈ s.join r) (second : j ∈ s.join r) :
    q.truth s i = q.truth s j := by
  obtain ⟨set, l, found, joins, rfl⟩ := mem_join.1 first
  obtain ⟨set', l', found', joins', rfl⟩ := mem_join.1 second
  cases found.symm.trans found'
  exact truth_eq_of_legality plain rfl rfl rfl

section

variable {s : Store} (distinct : (s.cards.map (·.displayName)).Nodup) {r : CardRow}
  (row : r ∈ s.cards)

include distinct row

theorem mem_names_of_row {q : Query .any} : r.displayName ∈ s.names q.fragment ↔
    r.Listable ∧ ∃ j ∈ s.join r, q.truth s j = .yes := by
  rw [mem_names]
  constructor
  next =>
    rintro ⟨c, other, named, found⟩
    rwa [← List.inj_on_of_nodup_map distinct other row named]
  next => exact fun found => ⟨r, row, rfl, found⟩

theorem mem_names_iff_truth {q : Query .any} (plain : ∀ t ∈ q.terms, t.keyword ≠ .legal)
    (listable : r.Listable) {j : JoinedRow} (joined : j ∈ s.join r) :
    r.displayName ∈ s.names q.fragment ↔ q.truth s j = .yes := by
  rw [mem_names_of_row distinct row]
  constructor
  next =>
    rintro ⟨-, k, member, holds⟩
    rwa [truth_eq_of_mem_join plain joined member]
  next => exact fun holds => ⟨listable, j, joined, holds⟩

/-- What both conditions find they find together, if the first is as true with one legality of the
card as with another. -/
theorem mem_names_both_of_agree {p q : Query .any}
    (agree : ∀ i ∈ s.join r, ∀ j ∈ s.join r, p.truth s i = p.truth s j)
    (found : r.displayName ∈ s.names p.fragment ∩ s.names q.fragment) :
    r.displayName ∈ s.names (both p q).fragment := by
  obtain ⟨listable, i, joined, first⟩ := (mem_names_of_row distinct row).1 found.1
  obtain ⟨-, j, joined', second⟩ := (mem_names_of_row distinct row).1 found.2
  -- The legality with which the second condition holds will do for the first as well.
  refine (mem_names_of_row distinct row).2 ⟨listable, j, joined', ?_⟩
  rw [truth_both, ← agree i joined j joined', first, second]
  rfl

end

/-- A card that may be played in two formats. -/
def twoFormats : List Insertion :=
  [ .set ⟨"M15", "core", none⟩,
    .card { uuid := "a", name := "Serra Angel", setCode := "M15" },
    .legality "a" ⟨"modern", "Legal"⟩,
    .legality "a" ⟨"pauper", "Legal"⟩ ]

/-- Conditions that must both hold find the rows of which both hold with one and the same
legality. Those are all that both conditions find, if the row has one legality at most, or one of
the conditions asks for no format. -/
theorem names_and {s : Store} (distinct : (s.cards.map (·.displayName)).Nodup)
    (p q : Query .any) :
    (∀ name, name ∈ s.names (p.fragment.group.and q.fragment.group) ↔
      ∃ r ∈ s.cards, r.displayName = name ∧ r.Listable ∧
        ∃ j ∈ s.join r, p.truth s j = .yes ∧ q.truth s j = .yes) ∧
    s.names (p.fragment.group.and q.fragment.group) ⊆ s.names p.fragment ∩ s.names q.fragment ∧
    (∀ r ∈ s.cards, (s.legalitiesOf r.uuid).length ≤ 1 →
      r.displayName ∈ s.names p.fragment ∩ s.names q.fragment →
        r.displayName ∈ s.names (p.fragment.group.and q.fragment.group)) ∧
    ((∀ t ∈ p.terms, t.keyword ≠ .legal) ∨ (∀ t ∈ q.terms, t.keyword ≠ .legal) →
      s.names (p.fragment.group.and q.fragment.group) =
        s.names p.fragment ∩ s.names q.fragment) := by
  rw [← fragment_both]
  refine ⟨fun name => mem_names_both, s.names_both_subset p q, ?_, ?_⟩
  next =>
    intro r row few found
    refine mem_names_both_of_agree distinct row (fun i joined j joined' => ?_) found
    rw [eq_of_mem_join few joined joined']
  next =>
    intro plain
    refine (s.names_both_subset p q).antisymm fun name found => ?_
    obtain ⟨r, row, rfl, -⟩ := mem_names.1 found.1
    rcases plain with plain | plain
    next =>
      exact mem_names_both_of_agree distinct row
        (fun i joined j joined' => truth_eq_of_mem_join plain joined joined') found
    next =>
      rw [names_both_comm]
      exact mem_names_both_of_agree distinct row
        (fun i joined j joined' => truth_eq_of_mem_join plain joined joined') found.symm

theorem names_and_angel_modern :
    let s := ofInsertions twoFormats
    (s.cards.map (·.displayName)).Nodup ∧
    s.names ((alone (.name "angel" false)).fragment.group.and
        (alone (.column .format "modern")).fragment.group) =
      s.names (alone (.name "angel" false)).fragment ∩
        s.names (alone (.column .format "modern")).fragment := by
  have distinct : ((ofInsertions twoFormats).cards.map (·.displayName)).Nodup := by decide
  have plain : ∀ t ∈ (alone (.name "angel" false)).terms, t.keyword ≠ .legal := by decide
  obtain ⟨-, -, -, meets⟩ := names_and distinct (alone (.name "angel" false))
    (alone (.column .format "modern"))
  exact ⟨distinct, meets (.inl plain)⟩

-- The card is found by either format, but none of its legalities is for both.
theorem names_and_ne_inter : ¬ ∀ (insertions : List Insertion) (rate : Float)
    (first second : String) (p q : Query .any),
    let s := ofInsertions insertions
    (s.cards.map (·.displayName)).Nodup →
    compile rate first = .ok (some p) → compile rate second = .ok (some q) →
    s.names (p.fragment.group.and q.fragment.group) =
      s.names p.fragment ∩ s.names q.fragment := by
  intro meets
  have same := meets twoFormats 1 "legal:modern" "legal:pauper" (alone (.column .format "modern"))
    (alone (.column .format "pauper")) (by decide) (by cbv) (by cbv)
  have left : ((ofInsertions twoFormats).listed (some (alone (.column .format "modern")))).map
      (·.card.displayName) = ["Serra Angel"] := by
    rfl
  have right : ((ofInsertions twoFormats).listed (some (alone (.column .format "pauper")))).map
      (·.card.displayName) = ["Serra Angel"] := by
    rfl
  have neither : ((ofInsertions twoFormats).listed (some (both (alone (.column .format "modern"))
      (alone (.column .format "pauper"))))).map (·.card.displayName) = [] := by
    rfl
  have found : "Serra Angel" ∈
      (ofInsertions twoFormats).names (alone (.column .format "modern")).fragment ∩
        (ofInsertions twoFormats).names (alone (.column .format "pauper")).fragment := by
    rw [Set.mem_inter_iff, mem_names_fragment, mem_names_fragment, left, right]
    simp
  rw [← same, ← fragment_both, mem_names_fragment, neither] at found
  cases found

/-! ## What a condition and its denial find -/

/-- A card without a text. -/
def textless : List Insertion :=
  [ .set ⟨"M15", "core", none⟩, .card { uuid := "a", name := "Grizzly Bears", setCode := "M15" } ]

theorem mem_names_textless : "Grizzly Bears" ∈ (ofInsertions textless).names .empty := by
  have all : ((ofInsertions textless).listed none).map (·.card.displayName) =
      ["Grizzly Bears"] := by
    rfl
  rw [mem_names_empty_iff_listed, all]
  simp

/-- Of a condition on what is printed and its denial exactly one finds a card that is listed at
all, unless the condition is unknown, which takes a term on a text or a rarity that the card has
not. -/
theorem names_negate (insertions : List Insertion)
    (distinct : ((ofInsertions insertions).cards.map (·.displayName)).Nodup) (q : Query .any)
    (printed : ∀ t ∈ q.terms, t.keyword ∈ printedKeywords) :
    let s := ofInsertions insertions
    ∀ name ∈ s.names .empty, ∃ r ∈ s.cards, r.displayName = name ∧
      (Xor (name ∈ s.names q.fragment) (name ∈ s.names q.fragment.group.negate) ∨
        name ∉ s.names q.fragment ∧ name ∉ s.names q.fragment.group.negate ∧
        (∀ j ∈ s.join r, q.truth s j = .unknown) ∧
        ((r.text = none ∧ ∃ t ∈ q.terms, t.keyword = .text) ∨
          (r.rarity = none ∧ ∃ t ∈ q.terms, t.keyword = .rarity))) := by
  intro s name listed
  have single : (s.cards.map (·.displayName)).Nodup := distinct
  have plain : ∀ t ∈ q.terms, t.keyword ≠ .legal := by
    intro t member legal
    have among := printed t member
    simp [legal, printedKeywords] at among
  obtain ⟨r, row, rfl, listable, j, joined⟩ := mem_names_empty.1 listed
  refine ⟨r, row, rfl, ?_⟩
  -- Without formats all rows joined with the card agree, so one of them decides both searches.
  rw [← fragment_denied, mem_names_iff_truth single row plain listable joined,
    mem_names_iff_truth (q := denied q) single row plain listable joined, truth_denied,
    Truth.not_eq_yes]
  cases truth : q.truth s j with
  | yes => simp
  | no => simp
  | unknown =>
    refine .inr ⟨by simp, by simp, ?_, ?_⟩
    next =>
      intro k member
      rw [truth_eq_of_mem_join plain member joined, truth]
    next =>
      obtain ⟨rfl, -⟩ := card_of_mem_join joined
      have number := (consistent_ofInsertions insertions).numbers _ row
      by_contra present
      refine eval_ne_unknown (fun t member => ?_) truth
      refine Term.truth_ne_unknown number (printed t member) ?_ ?_
      next => exact fun missing same => present (.inl ⟨missing, t, member, same⟩)
      next => exact fun missing same => present (.inr ⟨missing, t, member, same⟩)

theorem names_negate_bears :
    let s := ofInsertions textless
    (s.cards.map (·.displayName)).Nodup ∧
    (∀ t ∈ (alone (.name "bear" false)).terms, t.keyword ∈ printedKeywords) ∧
    "Grizzly Bears" ∈ s.names .empty ∧
    Xor ("Grizzly Bears" ∈ s.names (alone (.name "bear" false)).fragment)
      ("Grizzly Bears" ∈ s.names (alone (.name "bear" false)).fragment.group.negate) := by
  have distinct : ((ofInsertions textless).cards.map (·.displayName)).Nodup := by decide
  have printed : ∀ t ∈ (alone (.name "bear" false)).terms, t.keyword ∈ printedKeywords := by
    decide
  obtain ⟨r, -, -, one | ⟨-, -, -, unknown⟩⟩ := names_negate textless distinct
    (alone (.name "bear" false)) printed "Grizzly Bears" mem_names_textless
  next => exact ⟨distinct, printed, mem_names_textless, one⟩
  next =>
    exfalso
    rcases unknown with ⟨-, named⟩ | ⟨-, named⟩ <;> revert named <;> decide

-- The text that the card has not is unknown to hold a word and unknown not to.
theorem names_negate_ne_compl : ¬ ∀ (insertions : List Insertion) (rate : Float) (text : String)
    (q : Query .any),
    let s := ofInsertions insertions
    (s.cards.map (·.displayName)).Nodup → s.legalities = [] →
    compile rate text = .ok (some q) → (∀ t ∈ q.terms, t.keyword ∈ printedKeywords) →
    ∀ name ∈ s.names .empty,
      Xor (name ∈ s.names q.fragment) (name ∈ s.names q.fragment.group.negate) := by
  intro complement
  have left : ((ofInsertions textless).listed (some (alone (.text "flying")))).map
      (·.card.displayName) = [] := by
    rfl
  have right : ((ofInsertions textless).listed (some (denied (alone (.text "flying"))))).map
      (·.card.displayName) = [] := by
    rfl
  have one := complement textless 1 "text:flying" (alone (.text "flying")) (by decide) rfl
    (by cbv) (by decide) "Grizzly Bears" mem_names_textless
  rw [← fragment_denied, mem_names_fragment, mem_names_fragment, left, right] at one
  simp at one

end Store

end CardCatalog
