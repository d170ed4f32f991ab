import CardCatalog.Proofs.Store.Faces
import CardCatalog.Proofs.Store.Lookup

/-!
The full name of a card of several faces, as it is put together from its rows. Main statement: of
up to three faces it is the stored name; the faces from the fourth on, whose sides have no rank,
come before the others.
-/

set_option autoImplicit false

namespace CardCatalog

/-! ## Items sorted by a rank -/

section

variable {α β : Type} {rank : α → Nat}

theorem filter_perm_of_append {p : α → Bool} {items front back : List α}
    (perm : items.Perm (front ++ back)) (kept : ∀ a ∈ front, p a = true)
    (left : ∀ a ∈ back, p a = false) : (items.filter p).Perm front := by
  have moved := perm.filter p
  have none : back.filter p = [] := by simpa using left
  rwa [List.filter_append, List.filter_eq_self.2 kept, none, List.append_nil] at moved

theorem filter_append_filter_of_pairwise {items : List α}
    (sorted : items.Pairwise fun a b => rank a ≤ rank b) :
    items.filter (fun a => rank a = 0) ++ items.filter (fun a => !decide (rank a = 0)) =
      items := by
  induction items with
  | nil => rfl
  | cons a rest ih =>
    obtain ⟨least, sorted⟩ := List.pairwise_cons.1 sorted
    by_cases zero : rank a = 0
    next => simpa [zero] using ih sorted
    next =>
      -- Behind a ranked item all are ranked.
      have others : ∀ b ∈ rest, rank b ≠ 0 := by
        intro b member same
        have := least b member
        omega
      have none : rest.filter (fun a => rank a = 0) = [] := by simpa using others
      have all : rest.filter (fun a => !decide (rank a = 0)) = rest := by simpa using others
      simp [zero, none, all]

theorem pairwise_mergeSort_rank (rank : α → Nat) (items : List α) :
    (items.mergeSort fun a b => rank a ≤ rank b).Pairwise fun a b => rank a ≤ rank b := by
  have sorted : (items.mergeSort fun a b => rank a ≤ rank b).Pairwise
      fun a b => decide (rank a ≤ rank b) = true :=
    List.pairwise_mergeSort (by intro a b c; simp; omega) (by intro a b; simp; omega) items
  simpa using sorted

theorem filter_mergeSort_rank (items : List α) :
    (items.mergeSort fun a b => rank a ≤ rank b).filter (fun a => rank a = 0) =
      items.filter (fun a => rank a = 0) := by
  have tied : (items.filter fun a => rank a = 0).Pairwise fun a b => decide (rank a ≤ rank b) := by
    refine List.pairwise_of_forall_mem_list fun a first b second => ?_
    have zero : rank a = 0 := by simpa using (List.mem_filter.1 first).2
    simp [zero]
  have kept := List.sublist_mergeSort (by intro a b c; simp; omega) (by intro a b; simp; omega)
    tied List.filter_sublist
  have same := (List.mergeSort_perm items fun a b => rank a ≤ rank b).filter fun a => rank a = 0
  refine (List.Sublist.eq_of_length ?_ same.length_eq.symm).symm
  simpa using kept.filter fun a => rank a = 0

/-- Items without a rank come first and keep their order, and ranked ones follow. -/
theorem mergeSort_rank_eq {items ranked unranked : List α}
    (perm : items.Perm (ranked ++ unranked)) (zero : ∀ a ∈ unranked, rank a = 0)
    (positive : ∀ a ∈ ranked, rank a ≠ 0)
    (increasing : ranked.Pairwise fun a b => rank a < rank b) :
    (items.mergeSort fun a b => rank a ≤ rank b) =
      items.filter (fun a => rank a = 0) ++ ranked := by
  have sorted := pairwise_mergeSort_rank rank items
  have back : (items.mergeSort fun a b => rank a ≤ rank b).filter
      (fun a => !decide (rank a = 0)) = ranked := by
    have same : ((items.mergeSort fun a b => rank a ≤ rank b).filter
        fun a => !decide (rank a = 0)).Perm ranked :=
      filter_perm_of_append ((List.mergeSort_perm items _).trans perm)
        (by simpa using positive) (by simpa using zero)
    have distinct : (ranked.map rank).Nodup := by
      refine List.pairwise_map.2 (increasing.imp ?_)
      intro a b less
      omega
    -- No two ranked items have one rank, so they have one order only.
    refine List.Perm.eq_of_pairwise (fun a b first second le ge => ?_)
      (sorted.sublist List.filter_sublist) (increasing.imp Nat.le_of_lt) same
    exact List.inj_on_of_nodup_map distinct (same.subset first) second (Nat.le_antisymm le ge)
  rw [← filter_append_filter_of_pairwise sorted, filter_mergeSort_rank, back]

theorem map_mergeSort_rank {key : β → Nat} {name : α → String} {label : β → String}
    {as : List α} {bs : List β}
    (same : as.map (fun a => (name a, rank a)) = bs.map fun b => (label b, key b)) :
    (as.mergeSort fun a b => rank a ≤ rank b).map name =
      (bs.mergeSort fun a b => key a ≤ key b).map label := by
  -- Both are sorted as pairs of a name and a rank.
  have left := List.map_mergeSort (r := fun a b => decide (rank a ≤ rank b))
    (s := fun p q : String × Nat => decide (p.2 ≤ q.2)) (f := fun a => (name a, rank a)) (l := as)
    fun _ _ _ _ => rfl
  have right := List.map_mergeSort (r := fun a b => decide (key a ≤ key b))
    (s := fun p q : String × Nat => decide (p.2 ≤ q.2)) (f := fun b => (label b, key b)) (l := bs)
    fun _ _ _ _ => rfl
  rw [same, ← right] at left
  simpa [Function.comp_def] using congrArg (List.map Prod.fst) left

end

/-! ## Sides in printed order -/

def sideAt (i : Nat) : String :=
  String.singleton (Char.ofNat ('a'.toNat + i))

theorem sideAt_eq_iff {i k : Nat} (few : k < 3) : sideAt i = sideAt k ↔ i = k := by
  refine ⟨fun same => ?_, fun same => same ▸ rfl⟩
  have letter : Char.ofNat (97 + i) = Char.ofNat (97 + k) := by
    simpa [sideAt] using congrArg String.toList same
  have plain : Nat.isValidChar (97 + k) := .inl (by omega)
  have code := congrArg Char.toNat letter
  rw [Char.toNat_ofNat, Char.toNat_ofNat, if_pos plain] at code
  split at code <;> omega

theorem sideRank_sideAt (i : Nat) :
    sideRank (Side.ofName? (sideAt i)) = if i < 3 then i + 1 else 0 := by
  by_cases few : i < 3
  next => interval_cases i <;> decide
  next =>
    -- No letter from "d" on is one of the three that are known as sides.
    have other (k : Nat) (known : k < 3) : sideAt i ≠ sideAt k := by
      rw [Ne, sideAt_eq_iff known]
      omega
    have a : sideAt i ≠ "a" := other 0 (by decide)
    have b : sideAt i ≠ "b" := other 1 (by decide)
    have c : sideAt i ≠ "c" := other 2 (by decide)
    simp [Side.ofName?, a, b, c, few, sideRank]

/-! ## The rows of one card -/

def CardRow.rank (r : CardRow) : Nat :=
  sideRank r.sideOf

/-- The names of faces with slashes between them. -/
def joinedName (rows : List CardRow) : String :=
  " // ".intercalate (rows.map (·.displayName))

/-- The rows of a card of several faces, in printed order. -/
structure FacesOfCard (rows : List CardRow) : Prop where
  several : 2 ≤ rows.length
  layout : ∃ l ∈ Layout.multiFace, l ≠ .meld ∧ ∀ r ∈ rows, r.layout = l.name
  set : ∃ code, code ∉ excludedSets ∧ ∀ r ∈ rows, r.setCode = code
  paper : ∀ r ∈ rows, r.isPaper = true
  faced : ∀ r ∈ rows, r.faceName.isSome = true
  name : ∀ r ∈ rows, r.name = joinedName rows
  distinct : (rows.map (·.displayName)).Nodup
  unbroken : ∀ r ∈ rows, ¬ " // ".toList <:+: r.displayName.toList
  sides : rows.map (·.side) = (List.range rows.length).map fun i => some (sideAt i)
  ids : ∀ r ∈ rows, PlainId r.uuid
  others : ∀ r ∈ rows, ∃ ids, r.otherFaceIds = some (",".intercalate ids) ∧
    ids.Perm ((rows.map (·.uuid)).erase r.uuid)

namespace FacesOfCard

variable {rows : List CardRow} {r : CardRow}

theorem side_getElem (faces : FacesOfCard rows) {i : Nat} (inside : i < rows.length) :
    rows[i].side = some (sideAt i) := by
  have sides := congrArg (fun sides => sides[i]?) faces.sides
  simpa [inside] using sides

theorem rank_getElem (faces : FacesOfCard rows) {i : Nat} (inside : i < rows.length) :
    rows[i].rank = if i < 3 then i + 1 else 0 := by
  rw [CardRow.rank, CardRow.sideOf, faces.side_getElem inside, Option.bind_some, sideRank_sideAt]

theorem rank_of_mem_take (faces : FacesOfCard rows) (member : r ∈ rows.take 3) : r.rank ≠ 0 := by
  obtain ⟨i, inside, rfl⟩ := List.mem_take_iff_getElem.1 member
  rw [faces.rank_getElem (by omega), if_pos (by omega)]
  omega

theorem rank_of_mem_drop (faces : FacesOfCard rows) (member : r ∈ rows.drop 3) : r.rank = 0 := by
  obtain ⟨i, inside, rfl⟩ := List.mem_drop_iff_getElem.1 member
  rw [faces.rank_getElem (by omega), if_neg (by omega)]

theorem pairwise_rank (faces : FacesOfCard rows) :
    (rows.take 3).Pairwise fun a b => a.rank < b.rank := by
  refine List.pairwise_iff_getElem.2 fun i k first second less => ?_
  rw [List.length_take] at first second
  rw [List.getElem_take, List.getElem_take, faces.rank_getElem (by omega),
    faces.rank_getElem (by omega), if_pos (by omega), if_pos (by omega)]
  omega

theorem layout_ne_meld (faces : FacesOfCard rows) (member : r ∈ rows) :
    Layout.ofName r.layout ≠ .meld ∧ r.layout ≠ "meld" := by
  obtain ⟨l, -, other, layout⟩ := faces.layout
  rw [layout r member, Layout.ofName_name]
  refine ⟨other, ?_⟩
  revert other
  cases l <;> decide

theorem faceNames_ne_nil (faces : FacesOfCard rows) (member : r ∈ rows) :
    faceNames r.name ≠ [] := by
  obtain ⟨first, second, rest, rfl⟩ : ∃ first second rest, rows = first :: second :: rest := by
    match rows, faces.several with
    | first :: second :: rest, _ => exact ⟨first, second, rest, rfl⟩
  have parts : 2 ≤ (NameList.faces r.name).length := by
    rw [faces.name r member]
    exact NameList.two_le_length_faces
  unfold faceNames
  split
  next single => simp [single] at parts
  next =>
    intro none
    simp [none] at parts

theorem siblingIds_perm (faces : FacesOfCard rows) (member : r ∈ rows) :
    (r.uuid :: siblingIds r.otherFaceIds).Perm (rows.map (·.uuid)) := by
  obtain ⟨ids, column, perm⟩ := faces.others r member
  have plain : ∀ id ∈ ids, PlainId id := by
    intro id among
    obtain ⟨other, stored, rfl⟩ := List.mem_map.1 (List.mem_of_mem_erase (perm.subset among))
    exact faces.ids other stored
  rw [column, siblingIds_intercalate plain]
  exact (perm.cons r.uuid).trans (List.perm_cons_erase (List.mem_map_of_mem member)).symm

theorem primaryFace_getElem (faces : FacesOfCard rows) {i : Nat} (inside : i < rows.length) :
    rows[i].primaryFace = .yes ↔ i = 0 := by
  have other := (faces.layout_ne_meld (List.getElem_mem inside)).2
  have isA : sideAt i = "a" ↔ i = 0 := sideAt_eq_iff (k := 0) (by decide)
  rw [← isA]
  by_cases same : sideAt i = "a" <;>
    simp [CardRow.primaryFace, CardRow.sideIs, CardRow.sideMissing, CardRow.layoutIs,
      faces.side_getElem inside, other, same, Truth.ofOption, Truth.ofBool]

theorem listable_of_head (faces : FacesOfCard rows) (head : rows.head? = some r) : r.Listable := by
  obtain ⟨inside, rfl⟩ : ∃ inside : 0 < rows.length, rows[0] = r := by
    simpa [List.head?_eq_getElem?, List.getElem?_eq_some_iff] using head
  have own := List.getElem_mem inside
  obtain ⟨code, included, set⟩ := faces.set
  exact ⟨by simpa [CardRow.isPaper, NameList.holds] using faces.paper _ own,
    set _ own ▸ included, (faces.primaryFace_getElem inside).2 rfl⟩

theorem head_of_listable (faces : FacesOfCard rows) (member : r ∈ rows) (listable : r.Listable) :
    rows.head? = some r := by
  obtain ⟨i, inside, rfl⟩ := List.getElem_of_mem member
  cases (faces.primaryFace_getElem inside).1 listable.primary
  exact List.head?_eq_getElem?.trans (List.getElem?_eq_getElem inside)

theorem of_rows (code : String) (layout : Layout)
    (card : 2 ≤ rows.length ∧ layout ∈ Layout.multiFace ∧ layout ≠ .meld ∧ code ∉ excludedSets ∧
      (rows.map (·.displayName)).Nodup ∧
      rows.map (·.side) = (List.range rows.length).map fun i => some (sideAt i))
    (each : ∀ r ∈ rows, (r.layout = layout.name ∧ r.setCode = code ∧ r.isPaper = true) ∧
      (r.faceName.isSome = true ∧ r.name = joinedName rows ∧
        ¬ " // ".toList <:+: r.displayName.toList) ∧
      PlainId r.uuid ∧
      r.otherFaceIds = some (",".intercalate ((rows.map (·.uuid)).erase r.uuid))) :
    FacesOfCard rows := by
  obtain ⟨several, multi, other, included, distinct, sides⟩ := card
  exact {
    several, distinct, sides
    layout := ⟨layout, multi, other, fun r member => (each r member).1.1⟩
    set := ⟨code, included, fun r member => (each r member).1.2.1⟩
    paper := fun r member => (each r member).1.2.2
    faced := fun r member => (each r member).2.1.1
    name := fun r member => (each r member).2.1.2.1
    unbroken := fun r member => (each r member).2.1.2.2
    ids := fun r member => (each r member).2.2.1
    others := fun r member => ⟨_, (each r member).2.2.2, .refl _⟩ }

end FacesOfCard

namespace Store

variable {s : Store} {rows : List CardRow} {first r : CardRow}

theorem mem_take_of_head (head : rows.head? = some r) : r ∈ rows.take 3 :=
  List.mem_of_head? (by simpa [List.head?_take] using head)

theorem filterMap_card? (consistent : s.Consistent) (stored : rows ⊆ s.cards) :
    (rows.map (·.uuid)).filterMap s.card? = rows := by
  have each : ∀ r ∈ rows, s.card? r.uuid = some r := fun r member =>
    (find?_eq_some_iff_of_nodup consistent.cards).2 ⟨stored member, rfl⟩
  rw [List.filterMap_map]
  exact (List.filterMap_congr each).trans List.filterMap_some

theorem map_otherFaces (s : Store) (g : FaceGroup) :
    (s.otherFaces g).map (fun c => (c.name, sideRank c.side)) =
      (g.siblings.filterMap s.card?).map fun r => (r.displayName, r.rank) := by
  simp only [otherFaces, List.map_filterMap, Option.map_map]
  rfl

theorem sublist_filterMap_card? (s : Store) (ids : List String) :
    ((ids.filterMap s.card?).map (·.uuid)).Sublist ids := by
  induction ids with
  | nil => exact .slnil
  | cons id rest ih =>
    cases found : s.card? id with
    | none => simpa [found] using ih.cons id
    | some r =>
      have same : r.uuid = id := by simpa using List.find?_some found
      simpa [found, same] using ih.cons_cons id

theorem perm_siblings (consistent : s.Consistent) (faces : FacesOfCard rows)
    (stored : s.cards.Perm rows) (own : r ∈ rows) :
    (r :: (siblingIds r.otherFaceIds).filterMap s.card?).Perm rows := by
  have moved := (faces.siblingIds_perm own).filterMap s.card?
  rw [filterMap_card? consistent stored.symm.subset] at moved
  have itself : s.card? r.uuid = some r :=
    (find?_eq_some_iff_of_nodup consistent.cards).2 ⟨stored.symm.subset own, rfl⟩
  simpa [itself] using moved

theorem fullName_eq_mergeSort {l : CardLookup} (whole : l.singleSide = false)
    (price : Option PriceRow) (several : faceNames r.name ≠ []) (ranked : r.rank ≠ 0)
    (other : Layout.ofName r.layout ≠ .meld) :
    (s.cardOf l price r).fullName =
      joinedName ((r :: (siblingIds r.otherFaceIds).filterMap s.card?).mergeSort
        fun a b => a.rank ≤ b.rank) := by
  let c := s.cardOf l price r
  -- Of the branches of the full name, that of a sided card of several faces that does not meld.
  have multi : c.isMultiFaced = true := by simpa [c, Card.isMultiFaced, cardOf, face] using several
  have sided : c.side.isSome = true := by
    refine Option.isSome_iff_ne_none.2 fun none => ranked ?_
    have none : r.sideOf = Option.none := none
    rw [CardRow.rank, none, sideRank]
  have apart : c.layout ≠ .meld := other
  have siblings : c.otherFaces = s.otherFaces c.group := by simp [c, cardOf, whole]
  have printed : c.printedFaces =
      (c :: c.otherFaces).mergeSort fun a b => sideRank a.side ≤ sideRank b.side := by
    simp only [Card.printedFaces, sided, apart, if_true, if_false]
  have same : (c :: s.otherFaces c.group).map (fun c => (c.name, sideRank c.side)) =
      (r :: (siblingIds r.otherFaceIds).filterMap s.card?).map fun r =>
        (r.displayName, r.rank) := by
    rw [List.map_cons, map_otherFaces]
    rfl
  calc c.fullName
    _ = " // ".intercalate (c.printedFaces.map (·.name)) := if_pos multi
    _ = joinedName ((r :: (siblingIds r.otherFaceIds).filterMap s.card?).mergeSort
        fun a b => a.rank ≤ b.rank) := by
      rw [printed, siblings, map_mergeSort_rank same, joinedName]

/-- Put together from a row with a side, faces without one come first in the order of the row's
identities. -/
theorem fullName_cardOf (consistent : s.Consistent) (faces : FacesOfCard rows)
    (stored : s.cards.Perm rows) (member : r ∈ rows.take 3) {l : CardLookup}
    (whole : l.singleSide = false) (price : Option PriceRow) :
    ∃ later : List CardRow, later.Perm (rows.drop 3) ∧
      (later.map (·.uuid)).Sublist (siblingIds r.otherFaceIds) ∧
      (s.cardOf l price r).fullName = joinedName (later ++ rows.take 3) := by
  have own := List.mem_of_mem_take member
  have ranked := faces.rank_of_mem_take member
  have split := perm_siblings consistent faces stored own
  rw [← List.take_append_drop 3 rows] at split
  refine ⟨(r :: (siblingIds r.otherFaceIds).filterMap s.card?).filter (·.rank = 0), ?_, ?_, ?_⟩
  next =>
    exact filter_perm_of_append (split.trans List.perm_append_comm)
      (by simpa using fun r => faces.rank_of_mem_drop (r := r))
      (by simpa using fun r => faces.rank_of_mem_take (r := r))
  next =>
    -- The row itself has a rank, so those without one are among the others.
    rw [List.filter_cons_of_neg (by simpa using ranked)]
    exact (List.filter_sublist.map _).trans (s.sublist_filterMap_card? _)
  next =>
    rw [fullName_eq_mergeSort whole price (faces.faceNames_ne_nil own) ranked
      (faces.layout_ne_meld own).1, mergeSort_rank_eq split (fun _ => faces.rank_of_mem_drop)
      (fun _ => faces.rank_of_mem_take) faces.pairwise_rank]

theorem fullName_cardOf_of_few (consistent : s.Consistent) (faces : FacesOfCard rows)
    (few : rows.length ≤ 3) (stored : s.cards.Perm rows) (member : r ∈ rows) {l : CardLookup}
    (whole : l.singleSide = false) (price : Option PriceRow) :
    (s.cardOf l price r).fullName = joinedName rows := by
  have all : rows.take 3 = rows := List.take_of_length_le few
  obtain ⟨later, none, -, named⟩ :=
    fullName_cardOf consistent faces stored (all.symm ▸ member) whole price
  rw [List.drop_of_length_le few] at none
  rw [named, none.eq_nil, all, List.nil_append]

theorem eq_cardOf_of_mem_search (faces : FacesOfCard rows)
    (stored : s.cards.Perm rows) (head : rows.head? = some first) {query : Option (Query .any)}
    {o : SearchOptions} {cards : List Card} (found : s.search query o = .ok cards) {c : Card}
    (member : c ∈ cards) : c = s.cardOf {} (s.latestPrice first.uuid) first := by
  rw [search_eq_ok] at found
  cases found
  obtain ⟨j, listed, rfl⟩ := List.mem_map.1 member
  obtain ⟨row, joined, listable, -⟩ := mem_listed (mem_listed_of_sorted listed)
  have only := head.symm.trans (faces.head_of_listable (stored.subset row) listable)
  cases only
  rw [(card_of_mem_join joined).2]

theorem search_none_eq_singleton (faces : FacesOfCard rows)
    (stored : s.cards.Perm rows) (head : rows.head? = some first)
    (known : ∃ set ∈ s.sets, set.code = first.setCode) :
    s.search none {} = .ok [s.cardOf {} (s.latestPrice first.uuid) first] := by
  have found := s.search_eq_ok none {}
  have names := names_search s none rfl found
  have only := fun c => eq_cardOf_of_mem_search (c := c) faces stored head found
  obtain ⟨j, joined, rfl⟩ := exists_mem_join_of_known known
  have row := stored.symm.subset (List.mem_of_head? head)
  have shown := names.mem_iff.2 (mem_names_listed.2
    ⟨j.card, row, rfl, faces.listable_of_head head, j, joined, rfl⟩)
  obtain ⟨card, listed, -⟩ := List.mem_map.1 shown
  cases only card listed
  -- No name is listed twice, and all that is listed is the card of the first row.
  have distinct := (names.nodup_iff.2 (nodup_firstOfEachName _ _)).of_map
  have single := (List.perm_ext_iff_of_nodup distinct (List.nodup_singleton _)).2 fun c =>
    ⟨fun member => List.mem_singleton.2 (only c member),
      fun same => List.mem_singleton.1 same ▸ listed⟩
  rw [found, List.perm_singleton.1 single]

theorem getCard_of_head (consistent : s.Consistent) (faces : FacesOfCard rows)
    (stored : s.cards.Perm rows) (head : rows.head? = some first)
    (card : ¬ NamesToken first.displayName)
    (unique : ∀ r ∈ rows, Text.sameFolded r.displayName first.displayName = true → r = first) :
    s.getCard { name := first.displayName } =
      .ok (s.cardOf {} (s.latestPrice first.uuid) first) := by
  have listable := faces.listable_of_head head
  have row := stored.symm.subset (List.mem_of_head? head)
  refine getCard_of_listable consistent row listable card ?_ fun other among answered => ?_
  next => simp [answers, Text.sameFolded, isPaper_of_listable listable]
  next => rw [unique other (stored.subset among) (answers_iff.1 answered).1]

/-- A card of up to three faces is called by its stored name, however it is found. Of more faces
those from the fourth on come first, in the order of the identities that the first face names. -/
theorem fullName_of_facesOfCard (insertions : List Insertion) (faces : FacesOfCard rows)
    (stored : (ofInsertions insertions).cards.Perm rows) (head : rows.head? = some first)
    (known : ∃ set ∈ (ofInsertions insertions).sets, ∀ r ∈ rows, set.code = r.setCode) :
    let s := ofInsertions insertions
    ∃ c, s.search none {} = .ok [c] ∧
      (∀ query o cards, s.search query o = .ok cards → ∀ d ∈ cards, d = c) ∧
      (¬ NamesToken first.displayName →
        (∀ r ∈ rows, Text.sameFolded r.displayName first.displayName = true → r = first) →
        s.getCard { name := first.displayName } = .ok c) ∧
      (∃ later : List CardRow, later.Perm (rows.drop 3) ∧
        (later.map (·.uuid)).Sublist (siblingIds first.otherFaceIds) ∧
        c.fullName = joinedName (later ++ rows.take 3)) ∧
      (rows.length ≤ 3 → ∀ r ∈ rows, c.fullName = r.name ∧
        ∀ l d, l.singleSide = false → ¬ NamesToken l.name → s.getCard l = .ok d →
          d.fullName = r.name) := by
  intro s
  have consistent : s.Consistent := consistent_ofInsertions insertions
  have own : first ∈ rows := List.mem_of_head? head
  have inSet : ∃ set ∈ s.sets, set.code = first.setCode :=
    known.imp fun set listed => ⟨listed.1, listed.2 first own⟩
  refine ⟨_, search_none_eq_singleton faces stored head inSet,
    fun query o cards found d => eq_cardOf_of_mem_search faces stored head found, ?_, ?_, ?_⟩
  next =>
    intro card unique
    exact getCard_of_head consistent faces stored head card unique
  next =>
    exact fullName_cardOf consistent faces stored (mem_take_of_head head) rfl _
  next =>
    intro few r member
    rw [faces.name r member]
    refine ⟨fullName_cardOf_of_few consistent faces few stored own rfl _, ?_⟩
    intro l d whole card answered
    rw [getCard_eq_lookupCard card] at answered
    obtain ⟨passed, route⟩ := exists_route_of_followCard whole answered
    obtain ⟨last, isLast, -, rfl⟩ := route.stop
    have among := (route.stored last (List.mem_of_getLast? isLast)).1
    exact fullName_cardOf_of_few consistent faces few stored (stored.subset among) whole _

def twoHalves : List Insertion :=
  .set ⟨"APC", "expansion", none⟩ :: Sample.fireIce.map .card

theorem facesOfCard_twoHalves : FacesOfCard (ofInsertions twoHalves).cards :=
  .of_rows "APC" .split (by decide +kernel) (by decide +kernel)

theorem fullName_of_facesOfCard_twoHalves :
    let s := ofInsertions twoHalves
    FacesOfCard s.cards ∧ (∃ set ∈ s.sets, ∀ r ∈ s.cards, set.code = r.setCode) ∧
      ∃ c, s.search none {} = .ok [c] ∧ s.getCard { name := "Fire" } = .ok c ∧
        c.fullName = "Fire // Ice" := by
  intro s
  have known : ∃ set ∈ s.sets, ∀ r ∈ s.cards, set.code = r.setCode := by decide +kernel
  have parts : ∃ first ∈ s.cards.head?, first.displayName = "Fire" ∧ first.name = "Fire // Ice" ∧
      s.cards.length ≤ 3 ∧
      ∀ r ∈ s.cards, Text.sameFolded r.displayName "Fire" = true → r.uuid = first.uuid := by
    decide +kernel
  obtain ⟨first, head, shown, named, few, unique⟩ := parts
  obtain ⟨c, listed, -, answered, -, called⟩ :=
    fullName_of_facesOfCard twoHalves facesOfCard_twoHalves (.refl _) head known
  rw [shown] at answered
  have own := List.mem_of_head? head
  have alone : ∀ r ∈ s.cards, Text.sameFolded r.displayName "Fire" = true → r = first :=
    fun r row same => List.inj_on_of_nodup_map (consistent_ofInsertions twoHalves).cards row own
      (unique r row same)
  exact ⟨facesOfCard_twoHalves, known, c, listed, answered (by decide) alone,
    (called few first own).1.trans named⟩

def fourParts : List Insertion :=
  let face := Sample.face "Who // What // When // Where" "UNH" "split"
  [ .set ⟨"UNH", "funny", none⟩, .card (face "who" "Who" "a" "what,when,where"),
    .card (face "what" "What" "b" "who,when,where"),
    .card (face "when" "When" "c" "who,what,where"),
    .card (face "where" "Where" "d" "who,what,when") ]

theorem facesOfCard_fourParts : FacesOfCard (ofInsertions fourParts).cards :=
  .of_rows "UNH" .split (by decide +kernel) (by decide +kernel)

/-- Of four faces the name is not the stored one: the last comes first. -/
theorem fullName_ne_name :
    ¬ ∀ (insertions : List Insertion) (rows : List CardRow), FacesOfCard rows →
      (ofInsertions insertions).cards.Perm rows →
      (∃ set ∈ (ofInsertions insertions).sets, ∀ r ∈ rows, set.code = r.setCode) →
      ∀ cards, (ofInsertions insertions).search none {} = .ok cards →
        ∀ c ∈ cards, ∀ r ∈ rows, c.fullName = r.name := by
  intro claimed
  let s := ofInsertions fourParts
  have known : ∃ set ∈ s.sets, ∀ r ∈ s.cards, set.code = r.setCode := by decide +kernel
  have parts : ∃ first ∈ s.cards.head?, (∃ set ∈ s.sets, set.code = first.setCode) ∧
      joinedName (s.cards.drop 3 ++ s.cards.take 3) ≠ first.name := by
    decide +kernel
  obtain ⟨first, head, inSet, other⟩ := parts
  have one : (s.cards.drop 3).length = 1 := by decide +kernel
  have found := search_none_eq_singleton facesOfCard_fourParts (.refl _) head inSet
  have ranked : first ∈ s.cards.take 3 := mem_take_of_head head
  obtain ⟨later, last, -, called⟩ := fullName_cardOf (l := {}) (consistent_ofInsertions fourParts)
    facesOfCard_fourParts (.refl _) ranked rfl (s.latestPrice first.uuid)
  have same : later = s.cards.drop 3 := by
    obtain ⟨r, single⟩ := List.length_eq_one_iff.1 one
    rw [single] at last ⊢
    exact List.perm_singleton.1 last
  rw [same] at called
  have named := claimed fourParts s.cards facesOfCard_fourParts (.refl _) known _ found _
    List.mem_cons_self first (List.mem_of_head? head)
  exact other (called.symm.trans named)

end Store

end CardCatalog
