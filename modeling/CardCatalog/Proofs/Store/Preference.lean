import CardCatalog.Proofs.Sorting
import CardCatalog.Proofs.Store.Lookup

/-!
Which of several printings a lookup answers with. Main statement: a lookup of a single face finds
a card exactly if some row is eligible; of the eligible rows it prefers those of main sets, and of
these the newest.
-/

set_option autoImplicit false

namespace CardCatalog

/-! ## The order of printings -/

namespace SetKind

theorem order_eq (a b : String) :
    order a b = (compare (isMain a) (isMain b)).then
      (compare (if isMain a then "" else a) (if isMain b then "" else b)) := by
  unfold order
  cases isMain a <;> cases isMain b <;> rfl

instance : Std.TransCmp order := by
  have keyed : order = compareLex (compareOn isMain)
      (compareOn fun kind => if isMain kind then "" else kind) :=
    funext fun a => funext fun b => order_eq a b
  rw [keyed]
  infer_instance

theorem isMain_iff {kind : String} : isMain kind = true ↔ kind ∈ ["core", "expansion"] := by
  simp [isMain]

end SetKind

namespace SetInfo

/-- The order of printings by sets that are known. -/
def order (a b : SetInfo) : Ordering :=
  (SetKind.order a.kind b.kind).then (Store.dateOrder a.date b.date)

instance : Std.TransCmp order := by
  have byKind : Std.TransCmp fun a b : SetInfo => SetKind.order a.kind b.kind := transCmp_key _
  exact inferInstanceAs (Std.TransCmp (compareLex (fun a b : SetInfo => SetKind.order a.kind b.kind)
    (compareOn fun set : SetInfo => set.date.map Date.text)))

/-- A set that is not of a later date, by the texts of the dates; no date comes first. -/
def NotAfter (a b : SetInfo) : Prop :=
  ∀ day ∈ a.date, ∃ later ∈ b.date, day.text ≤ later.text

instance (a b : SetInfo) : Decidable (a.NotAfter b) :=
  inferInstanceAs (Decidable (∀ day ∈ a.date, ∃ later ∈ b.date, day.text ≤ later.text))

/-- What is not below a main set is a main set, and not an older one. -/
theorem notAfter_of_isLE_order {a b : SetInfo} (main : SetKind.isMain a.kind = true)
    (le : (order a b).isLE = true) : SetKind.isMain b.kind = true ∧ a.NotAfter b := by
  have same : SetKind.isMain b.kind = true ∧ SetKind.order a.kind b.kind = .eq := by
    unfold order SetKind.order at le
    unfold SetKind.order
    cases other : SetKind.isMain b.kind <;> simp_all
  refine ⟨same.1, fun day dated => ?_⟩
  rw [order, same.2, Ordering.eq_then, Store.dateOrder, Option.mem_def.1 dated] at le
  cases later : b.date with
  | none =>
    rw [later] at le
    cases le
  | some next =>
    rw [later] at le
    have le : (compare day.text next.text).isLE = true := le
    exact ⟨next, rfl, Std.LawfulBCmp.isLE_iff_le.1 le⟩

end SetInfo

instance : Std.TransCmp printingOrder where
  eq_swap {a b} := by
    rcases a with _ | a <;> rcases b with _ | b
    case some.some =>
      have swap : SetInfo.order a b = (SetInfo.order b a).swap := Std.OrientedCmp.eq_swap
      exact swap
    all_goals rfl
  isLE_trans {a b c} first second := by
    rcases a with _ | a <;> rcases c with _ | c
    case some.some =>
      cases b with
      | none => cases first
      | some b =>
        have trans : (SetInfo.order a b).isLE = true → (SetInfo.order b c).isLE = true →
            (SetInfo.order a c).isLE = true := Std.TransCmp.isLE_trans
        exact trans first second
    case some.none =>
      cases b with
      | none => cases first
      | some b => cases second
    all_goals rfl

/-! ## The preferred printing -/

namespace Store

/-- A row that a lookup may answer with. -/
structure Eligible (s : Store) (l : CardLookup) (r : CardRow) : Prop where
  stored : r ∈ s.cards
  named : Text.sameFolded r.displayName l.name = true
  paper : "paper" ∈ NameList.names r.availability
  inSet : ∀ code ∈ l.setCode, Text.sameFolded r.setCode code = true
  legal : ∀ format ∈ l.format, ∃ row ∈ s.legalities, row.uuid = r.uuid ∧
    Text.sameFolded row.legality.format format = true ∧ row.legality.status = "Legal"

variable {s : Store} {l : CardLookup} {r other : CardRow}

theorem mem_candidates (consistent : s.Consistent) : r ∈ s.candidates l ↔ r ∈ s.cards ∧
    ∀ format ∈ l.format, ∃ row ∈ s.legalities, row.uuid = r.uuid ∧ row.allows format = true := by
  unfold candidates
  cases l.format with
  | none => simp
  | some format =>
    simp only [List.mem_filterMap, List.mem_filter, card?,
      find?_eq_some_iff_of_nodup consistent.cards, Option.mem_some_iff, forall_eq']
    constructor
    next =>
      rintro ⟨row, ⟨known, allows⟩, stored, same⟩
      exact ⟨stored, row, known, same.symm, allows⟩
    next =>
      rintro ⟨stored, row, known, same, allows⟩
      exact ⟨row, ⟨known, allows⟩, stored, same.symm⟩

theorem eligible_iff (consistent : s.Consistent) :
    s.Eligible l r ↔ r ∈ s.candidates l ∧ answers l r = true := by
  rw [mem_candidates consistent, answers_iff, CardRow.isPaper_iff]
  simp only [LegalityRow.allows, Bool.and_eq_true, decide_eq_true_eq]
  constructor
  next =>
    intro eligible
    exact ⟨⟨eligible.stored, eligible.legal⟩, eligible.named, eligible.paper, eligible.inSet⟩
  next =>
    rintro ⟨⟨stored, legal⟩, named, paper, inSet⟩
    exact ⟨stored, named, paper, inSet, legal⟩

theorem isLE_of_found? (found : s.found? l = some r) (among : other ∈ s.candidates l)
    (wanted : answers l other = true) :
    (printingOrder (s.set? other.setCode) (s.set? r.setCode)).isLE = true := by
  have byPrinting : Std.TransCmp fun a b : CardRow =>
      printingOrder (s.set? a.setCode) (s.set? b.setCode) := transCmp_key _
  exact @isLE_of_head?_mergeSort _ _ byPrinting _ _ _ found (List.mem_filter.2 ⟨among, wanted⟩)

/-- Of the rows that a lookup may answer with it takes one of a main set, if there is any, and of
those one of the latest date. -/
theorem notAfter_of_found? (consistent : s.Consistent) (found : s.found? l = some r)
    (eligible : s.Eligible l other) {set : SetInfo} (known : set ∈ s.sets)
    (code : set.code = other.setCode) (main : set.kind ∈ ["core", "expansion"]) :
    ∃ own ∈ s.sets, own.code = r.setCode ∧ own.kind ∈ ["core", "expansion"] ∧
      set.NotAfter own := by
  obtain ⟨among, wanted⟩ := (eligible_iff consistent).1 eligible
  have le := isLE_of_found? found among wanted
  rw [(set?_eq_some consistent).2 ⟨known, code⟩] at le
  cases chosen : s.set? r.setCode with
  | none =>
    rw [chosen] at le
    cases le
  | some own =>
    rw [chosen] at le
    obtain ⟨ownKnown, ownCode⟩ := (set?_eq_some consistent).1 chosen
    obtain ⟨ownMain, notAfter⟩ :=
      SetInfo.notAfter_of_isLE_order (SetKind.isMain_iff.2 main) le
    exact ⟨own, ownKnown, ownCode, SetKind.isMain_iff.1 ownMain, notAfter⟩

theorem lookupCard_of_single (single : l.singleSide = true) :
    s.lookupCard l = match s.found? l with
      | none => .error (.cardNotFound l)
      | some r => .ok (s.cardOf l (s.latestPrice r.uuid) r) := by
  have stays (r : CardRow) : next? l r = none := by simp [next?, single]
  unfold lookupCard followCard
  split <;> simp_all

/-- A lookup of a single face finds a card exactly if some row is eligible, and else reports that
there is none. If an eligible row is of a main set then the card is of a main set as well, and not
of an older one. -/
theorem getCard_preferred (insertions : List Insertion) {l : CardLookup}
    (single : l.singleSide = true) (card : ¬ NamesToken l.name) :
    let s := ofInsertions insertions
    ((∃ c, s.getCard l = .ok c) ↔ ∃ r, s.Eligible l r) ∧
    ((¬ ∃ r, s.Eligible l r) → s.getCard l = .error (.cardNotFound l)) ∧
    ∀ c, s.getCard l = .ok c → ∃ r, s.Eligible l r ∧ c = s.cardOf l (s.latestPrice r.uuid) r ∧
      ∀ other, s.Eligible l other → ∀ set ∈ s.sets, set.code = other.setCode →
        set.kind ∈ ["core", "expansion"] →
        ∃ own ∈ s.sets, own.code = r.setCode ∧ own.kind ∈ ["core", "expansion"] ∧
          set.NotAfter own := by
  intro s
  have consistent : s.Consistent := consistent_ofInsertions insertions
  rw [getCard_eq_lookupCard card, lookupCard_of_single single]
  cases found : s.found? l with
  | none =>
    have nobody : ¬ ∃ r, s.Eligible l r := by
      rintro ⟨r, eligible⟩
      obtain ⟨among, wanted⟩ := (eligible_iff consistent).1 eligible
      obtain ⟨first, some⟩ := exists_found? among wanted
      rw [found] at some
      cases some
    simp [nobody]
  | some r =>
    have eligible : s.Eligible l r := (eligible_iff consistent).2 (mem_of_found? found)
    refine ⟨⟨fun _ => ⟨r, eligible⟩, fun _ => ⟨_, rfl⟩⟩, fun nobody => absurd ⟨r, eligible⟩ nobody,
      fun c answered => ?_⟩
    cases answered
    exact ⟨r, eligible, rfl, fun other also set known code main =>
      notAfter_of_found? consistent found also known code main⟩

def threePrintings : List Insertion :=
  [ .set ⟨"M15", "core", Sample.day 2014 7 18⟩, .set ⟨"10E", "core", Sample.day 2007 7 13⟩,
    .set ⟨"A25", "masters", Sample.day 2018 3 16⟩ ] ++
  ["A25", "M15", "10E"].flatMap fun code =>
    [ .card (Sample.serraAngel ("serra-" ++ code) code),
      .legality ("serra-" ++ code) ⟨"modern", "Legal"⟩ ]

theorem getCard_preferred_newestMain :
    let s := ofInsertions threePrintings
    let l : CardLookup := { name := "serra angel", format := some "Modern", singleSide := true }
    l.singleSide = true ∧ ¬ NamesToken l.name ∧ (∃ r, s.Eligible l r ∧ r.setCode = "A25") ∧
      ∃ c, s.getCard l = .ok c ∧ c.setCode = "M15" := by
  intro s l
  have consistent : s.Consistent := consistent_ofInsertions threePrintings
  have card : ¬ NamesToken l.name := by decide
  have eligible : ∀ code ∈ ["A25", "M15"], ∃ r, s.Eligible l r ∧ r.setCode = code := by
    have rows : ∀ code ∈ ["A25", "M15"], ∃ r ∈ s.candidates l, answers l r = true ∧
        r.setCode = code := by
      decide +kernel
    intro code member
    obtain ⟨r, among, wanted, inSet⟩ := rows code member
    exact ⟨r, (eligible_iff consistent).2 ⟨among, wanted⟩, inSet⟩
  have newest : ∃ set ∈ s.sets, set.code = "M15" ∧ set.kind ∈ ["core", "expansion"] ∧
      ∀ own ∈ s.sets, own.kind ∈ ["core", "expansion"] → set.NotAfter own → own.code = "M15" := by
    decide +kernel
  obtain ⟨found, -, preferred⟩ := getCard_preferred threePrintings (l := l) rfl card
  obtain ⟨m15, alsoM15, printedM15⟩ := eligible "M15" (by decide)
  obtain ⟨c, answered⟩ := found.2 ⟨m15, alsoM15⟩
  obtain ⟨r, -, rfl, best⟩ := preferred c answered
  obtain ⟨set, known, code, main, only⟩ := newest
  obtain ⟨own, ownKnown, ownCode, ownMain, notAfter⟩ :=
    best m15 alsoM15 set known (code.trans printedM15.symm) main
  exact ⟨rfl, card, eligible "A25" (by decide), _, answered,
    ownCode.symm.trans (only own ownKnown ownMain notAfter)⟩

end Store

end CardCatalog
