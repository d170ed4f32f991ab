import CardCatalog.Proofs.NameList
import CardCatalog.Proofs.Store.Names
import CardCatalog.Store.Sample

/-!
The faces of a card and how they are found. Main statements: a row either stands for a card or is
another face of one; and a listed card is found under its own name and under that of each of its
other faces.
-/

set_option autoImplicit false

namespace CardCatalog

namespace CardRow

theorem exists_firstFaceName (r : CardRow) : ∃ first, r.firstFaceName = some first := by
  obtain ⟨first, rest, parts⟩ := List.exists_cons_of_ne_nil
    (NameList.splitFaces_ne_nil r.name.toList)
  exact ⟨String.ofList first, by simp [firstFaceName, NameList.face?, NameList.faces, parts]⟩

/-- An old split row that does not tell which half it is. -/
def Unplaced (r : CardRow) : Prop :=
  r.layout = "split" ∧ r.side = none ∧ r.faceName = none

instance (r : CardRow) : Decidable r.Unplaced :=
  inferInstanceAs (Decidable (_ ∧ _ ∧ _))

theorem siblingFace_iff_of_placed {r : CardRow} (placed : ¬ r.Unplaced) :
    r.siblingFace = .yes ↔ r.primaryFace ≠ .yes := by
  obtain ⟨first, isFirst⟩ := r.exists_firstFaceName
  simp only [siblingFace, primaryFace, sideIs, sideMissing, layoutIs, isFirst, Truth.ofOption]
  cases side : r.side with
  | none =>
    by_cases split : r.layout = "split"
    next =>
      -- Only here do the names decide, and then the row has one of its own.
      obtain ⟨name, named⟩ := Option.ne_none_iff_exists'.1 fun none => placed ⟨split, side, none⟩
      have display : r.displayName = name := by simp [displayName, named]
      by_cases same : first = name
      next => simp [Truth.ofBool, namesDiffer, split, named, display, same]
      next => simp [Truth.ofBool, namesDiffer, split, named, display, same, Ne.symm same]
    next => simp [Truth.ofBool, split]
  | some side =>
    by_cases meld : r.layout = "meld" <;> simp [Truth.ofBool, meld]

/-- Of the rows of named faces those are other faces that do not stand for a card. -/
theorem siblingFace_eq_yes_iff {f : CardRow} {name : String} (named : f.faceName = some name) :
    f.siblingFace = .yes ↔ f.primaryFace ≠ .yes :=
  siblingFace_iff_of_placed fun unplaced => by simp [Unplaced, named] at unplaced

/-- Every row either stands for a card or is another face of one, whatever of it is missing, unless
it is an old split row that does not tell which half it is. -/
theorem primaryFace_xor_siblingFace (r : CardRow) (placed : ¬ r.Unplaced) :
    Xor (r.primaryFace = .yes) (r.siblingFace = .yes) := by
  rw [siblingFace_iff_of_placed placed, xor_not_right]

theorem primaryFace_xor_siblingFace_secondHalf :
    let r : CardRow :=
      { uuid := "ice-apc", name := "Fire // Ice", faceName := some "Ice", layout := "split" }
    ¬ r.Unplaced ∧ Xor (r.primaryFace = .yes) (r.siblingFace = .yes) ∧ r.primaryFace ≠ .yes := by
  intro r
  have placed : ¬ r.Unplaced := by decide
  exact ⟨placed, primaryFace_xor_siblingFace r placed, by decide⟩

end CardRow

namespace Query.Term

theorem matchesName_self (name : String) : matchesName name true name = true := by
  simp [matchesName, Text.sameFolded]

variable {s : Store} {j : JoinedRow} {name : String}

theorem truth_displayName : (Term.name j.card.displayName true).truth s j = .yes := by
  simp [truth, onFace?, onRow, matchesName_self, Truth.ofBool]

theorem truth_faceName {f : CardRow}
    (layout : ∃ l ∈ Layout.multiFace, j.card.layout = l.name) (face : f ∈ s.cards)
    (named : f.faceName = some name) (other : f.primaryFace ≠ .yes)
    (sibling : NameList.holds j.card.otherFaceIds (some f.uuid) = true) :
    (Term.name name true).truth s j = .yes := by
  have present : j.card.otherFaceIds.isSome = true := by
    cases ids : j.card.otherFaceIds with
    | none => simp [ids, NameList.holds] at sibling
    | some ids => rfl
  have among : (Layout.multiFace.map Layout.name).contains j.card.layout = true := by
    obtain ⟨l, member, same⟩ := layout
    rw [same]
    exact List.contains_iff_mem.2 (List.mem_map_of_mem member)
  have matched : (Truth.ofOption (matchesName name true) f.faceName).holds = true := by
    simp [named, Truth.ofOption, matchesName_self]
  have found : onSomeFace s Layout.multiFace
      (fun f => .ofOption (matchesName name true) f.faceName) j.card = true := by
    simp only [onSomeFace, present, among, Bool.true_and, List.any_eq_true, Bool.and_eq_true,
      Truth.holds_and]
    exact ⟨f, face, sibling, Truth.holds_iff.2 ((CardRow.siblingFace_eq_yes_iff named).2 other),
      matched⟩
  simp [truth, onFace?, found, Truth.ofBool]

end Query.Term

namespace Store

open Query

variable {s : Store} {p f : CardRow} {name : String}

theorem exists_mem_join_of_known (known : ∃ set ∈ s.sets, set.code = p.setCode) :
    ∃ j ∈ s.join p, j.card = p := by
  obtain ⟨set, found⟩ : ∃ set, s.set? p.setCode = some set := by
    obtain ⟨set, member, code⟩ := known
    exact Option.isSome_iff_exists.1 (List.find?_isSome.2 ⟨set, member, by simpa using code⟩)
  obtain ⟨l, joins⟩ := s.exists_joinsLegality p
  exact ⟨_, mem_join.2 ⟨set, l, found, joins, rfl⟩, rfl⟩

/-- A search for the exact name of a listed card, or for that of one of its other faces, lists the
card. -/
theorem search_lists_face (row : p ∈ s.cards) (listable : p.Listable)
    (known : ∃ set ∈ s.sets, set.code = p.setCode)
    (layout : ∃ l ∈ Layout.multiFace, p.layout = l.name) (face : f ∈ s.cards)
    (named : f.faceName = some name) (other : f.primaryFace ≠ .yes)
    (sibling : NameList.holds p.otherFaceIds (some f.uuid) = true) :
    ∀ wanted ∈ [name, p.displayName], ∀ (query : Option (Query .any)) (o : SearchOptions),
      conditionOf query = (Term.name wanted true).fragment → o.limit = none →
      ∃ cards, s.search query o = .ok cards ∧ p.displayName ∈ cards.map (·.name) := by
  intro wanted among query o condition unlimited
  obtain ⟨j, joined, rfl⟩ := exists_mem_join_of_known known
  have holds : (alone (.name wanted true)).truth s j = .yes := by
    rcases List.mem_pair.1 among with rfl | rfl
    next => exact Term.truth_faceName layout face named other sibling
    next => exact Term.truth_displayName
  have found : j.card.displayName ∈ s.names (conditionOf query) := by
    rw [condition]
    exact mem_names.2 ⟨j.card, row, rfl, listable, j, joined, holds⟩
  have listed := s.search_eq_ok query o
  exact ⟨_, listed, (mem_names_of_search unlimited listed).1 found⟩

def melded : List Insertion :=
  .set ⟨"EMN", "expansion", none⟩ :: Sample.brisela.map .card

theorem search_lists_face_brisela :
    let s := ofInsertions melded
    ∃ p ∈ s.cards, ∃ f ∈ s.cards, p.displayName = "Bruna, the Fading Light" ∧ p.Listable ∧
      (∃ set ∈ s.sets, set.code = p.setCode) ∧ (∃ l ∈ Layout.multiFace, p.layout = l.name) ∧
      f.faceName = some "Brisela, Voice of Nightmares" ∧ f.primaryFace ≠ .yes ∧
      NameList.holds p.otherFaceIds (some f.uuid) = true ∧
      ∃ cards, s.search (some (alone (.name "Brisela, Voice of Nightmares" true))) {} = .ok cards ∧
        "Bruna, the Fading Light" ∈ cards.map (·.name) := by
  intro s
  have rows : ∃ p ∈ s.cards, ∃ f ∈ s.cards, p.displayName = "Bruna, the Fading Light" ∧
      isListable p = true ∧ (∃ set ∈ s.sets, set.code = p.setCode) ∧
      (∃ l ∈ Layout.multiFace, p.layout = l.name) ∧
      f.faceName = some "Brisela, Voice of Nightmares" ∧ f.primaryFace ≠ .yes ∧
      NameList.holds p.otherFaceIds (some f.uuid) = true := by
    decide +kernel
  obtain ⟨p, row, f, face, shown, listed, known, layout, named, other, sibling⟩ := rows
  have listable := isListable_iff.1 listed
  have found := search_lists_face row listable known layout face named other sibling
    "Brisela, Voice of Nightmares" List.mem_cons_self
    (some (alone (.name "Brisela, Voice of Nightmares" true))) {} rfl rfl
  rw [shown] at found
  exact ⟨p, row, f, face, shown, listable, known, layout, named, other, sibling, found⟩

end Store

end CardCatalog
