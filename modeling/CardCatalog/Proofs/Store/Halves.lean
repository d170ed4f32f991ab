import CardCatalog.Proofs.NameList
import CardCatalog.Proofs.Store.Lookup

/-!
Cards whose two halves lie on one side. Main statement: a lookup for the second half answers with
the same card as a lookup for the first one.
-/

set_option autoImplicit false

namespace CardCatalog

namespace CardRow

/-- A row of one half of the card with the name `whole`, next to a single other row. -/
@[mk_iff]
structure IsHalf (r : CardRow) (whole name side other : String) : Prop where
  whole : r.name = whole
  named : r.faceName = some name
  side : r.side = some side
  paper : "paper" ∈ NameList.names r.availability
  id : PlainId r.uuid
  others : r.otherFaceIds = some other
  plain : ¬ "//".toList <:+: name.toList
  card : ¬ NamesToken name

instance (r : CardRow) (whole name side other : String) :
    Decidable (r.IsHalf whole name side other) :=
  decidable_of_iff _ (isHalf_iff r whole name side other).symm

namespace IsHalf

variable {r : CardRow} {whole name side other : String}

theorem displayName_eq (half : r.IsHalf whole name side other) : r.displayName = name := by
  simp [displayName, half.named]

theorem isPaper (half : r.IsHalf whole name side other) : r.isPaper = true :=
  isPaper_iff.2 half.paper

theorem siblings (half : r.IsHalf whole name side other) (plain : PlainId other) :
    siblingIds r.otherFaceIds = [other] := by
  have read : siblingIds (some (",".intercalate [other])) = [other] :=
    siblingIds_intercalate (by simpa using plain)
  rwa [half.others]

end IsHalf

end CardRow

namespace Store

/-- The rows of the two halves of a card of its set. No other row of the set has the name of one
of them. -/
structure Halves (s : Store) (a b : CardRow) (left right : String) : Prop where
  stored : a ∈ s.cards ∧ b ∈ s.cards
  layout : ∃ l ∈ [Layout.flip, .adventure, .split, .aftermath],
    a.layout = l.name ∧ b.layout = l.name
  sameSet : a.setCode = b.setCode
  first : a.IsHalf (left ++ " // " ++ right) left "a" b.uuid
  second : b.IsHalf (left ++ " // " ++ right) right "b" a.uuid
  distinct : Text.sameFolded left right = false
  alone : ∀ r ∈ s.cards, Text.sameFolded r.setCode a.setCode = true →
    (Text.sameFolded r.displayName left = true ∨ Text.sameFolded r.displayName right = true) →
    r.uuid = a.uuid ∨ r.uuid = b.uuid

namespace Halves

variable {s : Store} {a b r : CardRow} {left right code : String} {l : CardLookup}

theorem sideOf_first (halves : s.Halves a b left right) : a.sideOf = some .a := by
  simp [CardRow.sideOf, halves.first.side, Side.ofName?]

theorem sideOf_second (halves : s.Halves a b left right) : b.sideOf = some .b := by
  simp [CardRow.sideOf, halves.second.side, Side.ofName?]

theorem redirect?_first (halves : s.Halves a b left right) : a.redirect? = none := by
  refine CardRow.redirect?_eq_none_iff.2 fun target whole => ?_
  simp [wholeCardName, halves.sideOf_first] at whole

theorem redirect?_second (halves : s.Halves a b left right) : b.redirect? = some left := by
  obtain ⟨layout, shares, -, named⟩ := halves.layout
  refine CardRow.redirect?_eq_some_iff.2 ⟨?_, halves.sideOf_second, ?_, ?_⟩
  next =>
    rw [named, Layout.ofName_name]
    revert shares
    cases layout <;> decide
  next =>
    rw [halves.second.whole, faceNames,
      NameList.faces_append halves.first.plain halves.second.plain]
    rfl
  next => rw [halves.second.displayName_eq, halves.distinct]

theorem stored_of_half (halves : s.Halves a b left right) (half : r = a ∨ r = b) :
    r ∈ s.cards ∧ r.isPaper = true ∧ r.setCode = a.setCode := by
  rcases half with rfl | rfl
  next => exact ⟨halves.stored.1, halves.first.isPaper, rfl⟩
  next => exact ⟨halves.stored.2, halves.second.isPaper, halves.sameSet.symm⟩

/-- The rows of the halves are told apart by their names. -/
theorem eq_of_sameFolded (halves : s.Halves a b left right) {r other : CardRow}
    (half : r = a ∨ r = b) (otherHalf : other = a ∨ other = b)
    (same : Text.sameFolded r.displayName other.displayName = true) : r = other := by
  have distinct := halves.distinct
  rw [← Bool.not_eq_true, Text.sameFolded_iff] at distinct
  rw [Text.sameFolded_iff] at same
  rcases half with rfl | rfl <;> rcases otherHalf with rfl | rfl
  case inl.inl | inr.inr => rfl
  case inl.inr =>
    rw [halves.first.displayName_eq, halves.second.displayName_eq] at same
    exact absurd same distinct
  case inr.inl =>
    rw [halves.first.displayName_eq, halves.second.displayName_eq] at same
    exact absurd same.symm distinct

theorem eq_of_named (halves : s.Halves a b left right) (consistent : s.Consistent)
    (half : r = a ∨ r = b) {other : CardRow} (among : other ∈ s.cards)
    (inSet : Text.sameFolded other.setCode a.setCode = true)
    (named : Text.sameFolded other.displayName r.displayName = true) : other = r := by
  have shown : Text.sameFolded other.displayName left = true ∨
      Text.sameFolded other.displayName right = true := by
    rcases half with rfl | rfl
    next => exact .inl (halves.first.displayName_eq ▸ named)
    next => exact .inr (halves.second.displayName_eq ▸ named)
  have otherHalf : other = a ∨ other = b :=
    (halves.alone other among inSet shown).imp
      (List.inj_on_of_nodup_map consistent.cards among halves.stored.1)
      (List.inj_on_of_nodup_map consistent.cards among halves.stored.2)
  exact halves.eq_of_sameFolded otherHalf half named

/-- In its set each half is found under its name. -/
theorem found?_eq (halves : s.Halves a b left right) (consistent : s.Consistent)
    (half : r = a ∨ r = b) (named : l.name = r.displayName) (set : l.setCode = some code)
    (inSet : Text.sameFolded a.setCode code = true) (anyFormat : l.format = none) :
    s.found? l = some r := by
  obtain ⟨row, paper, sameSet⟩ := halves.stored_of_half half
  refine found?_of_unique consistent anyFormat row ?_ fun other among answered => ?_
  next =>
    refine answers_iff.2 ⟨by simp [named, Text.sameFolded], paper, fun wanted isSet => ?_⟩
    rw [set, Option.mem_some_iff] at isSet
    rwa [sameSet, ← isSet]
  next =>
    obtain ⟨otherNamed, -, otherSet⟩ := answers_iff.1 answered
    have codes := (Text.sameFolded_iff _ _).1 (otherSet code set)
    have sameSet := codes.trans ((Text.sameFolded_iff _ _).1 inSet).symm
    rw [halves.eq_of_named consistent half among ((Text.sameFolded_iff _ _).2 sameSet)
      (named ▸ otherNamed)]

theorem otherFaces_first (halves : s.Halves a b left right) (consistent : s.Consistent) :
    s.otherFaces (.ofColumn a.uuid a.sideOf a.otherFaceIds) = [s.singleFace b] := by
  have found : s.card? b.uuid = some b :=
    (find?_eq_some_iff_of_nodup consistent.cards).2 ⟨halves.stored.2, rfl⟩
  simp [otherFaces, FaceGroup.ofColumn, halves.first.siblings halves.second.id, found]

theorem followCard_first (halves : s.Halves a b left right) (consistent : s.Consistent)
    (fuel : Nat) (named : l.name = left) (set : l.setCode = some code)
    (inSet : Text.sameFolded a.setCode code = true) (anyFormat : l.format = none)
    (whole : l.singleSide = false) :
    s.followCard fuel l = .ok (s.cardOf l (s.latestPrice a.uuid) a) := by
  have found : s.found? l = some a :=
    halves.found?_eq consistent (.inl rfl) (named.trans halves.first.displayName_eq.symm) set
      inSet anyFormat
  exact followCard_of_stays fuel found ((next?_eq_none_iff whole).2 halves.redirect?_first)

theorem followCard_second (halves : s.Halves a b left right) (consistent : s.Consistent)
    (fuel : Nat) (named : l.name = right) (set : l.setCode = some code)
    (inSet : Text.sameFolded a.setCode code = true) (anyFormat : l.format = none)
    (whole : l.singleSide = false) :
    s.followCard (fuel + 1) l = .ok (s.cardOf l (s.latestPrice a.uuid) a) := by
  have found : s.found? l = some b :=
    halves.found?_eq consistent (.inr rfl) (named.trans halves.second.displayName_eq.symm) set
      inSet anyFormat
  let next : CardLookup := { l with name := left, setCode := some b.setCode, format := none }
  have gives : next? l b = some next :=
    next?_eq_some_iff.2 ⟨whole, left, halves.redirect?_second, rfl⟩
  have sameSet : Text.sameFolded a.setCode b.setCode = true :=
    (Text.sameFolded_iff _ _).2 (congrArg Text.fold halves.sameSet)
  calc s.followCard (fuel + 1) l
    _ = s.followCard fuel next := followCard_of_gives fuel found gives
    _ = .ok (s.cardOf next (s.latestPrice a.uuid) a) :=
      halves.followCard_first consistent fuel rfl rfl sameSet rfl whole
    _ = .ok (s.cardOf l (s.latestPrice a.uuid) a) :=
      congrArg Except.ok (cardOf_eq rfl rfl rfl _ _)

end Halves

variable {a b : CardRow} {left right code : String}

/-- A lookup for either half of a card in its set answers with the card of the first half, whose
other face is the second one. -/
theorem getCard_second_eq_first (insertions : List Insertion)
    (halves : (ofInsertions insertions).Halves a b left right)
    (inSet : Text.sameFolded a.setCode code = true) (verbose rulings : Bool) :
    let s := ofInsertions insertions
    ∃ c, s.getCard { name := right, setCode := some code, verbose, rulings } = .ok c ∧
      s.getCard { name := left, setCode := some code, verbose, rulings } = .ok c ∧
      c.name = left ∧ c.side = some .a ∧
      ∃ f, c.otherFaces = [f] ∧ f = s.singleFace b ∧ f.name = right ∧ f.side = some .b := by
  intro s
  have consistent : s.Consistent := consistent_ofInsertions insertions
  let l (name : String) : CardLookup := { name, setCode := some code, verbose, rulings }
  let c := s.cardOf (l left) (s.latestPrice a.uuid) a
  have first : s.getCard (l left) = .ok c := by
    rw [getCard_eq_lookupCard (l := l left) halves.first.card]
    exact halves.followCard_first consistent _ rfl rfl inSet rfl rfl
  have second : s.getCard (l right) = .ok c := by
    obtain ⟨fuel, rows⟩ := Nat.exists_eq_add_one_of_ne_zero
      (List.length_pos_of_mem halves.stored.1).ne'
    calc s.getCard (l right)
      _ = s.followCard (fuel + 1) (l right) := by
        rw [getCard_eq_lookupCard (l := l right) halves.second.card, lookupCard, rows]
      _ = .ok (s.cardOf (l right) (s.latestPrice a.uuid) a) :=
        halves.followCard_second consistent fuel rfl rfl inSet rfl rfl
      _ = .ok c := congrArg Except.ok (cardOf_eq rfl rfl rfl _ _)
  exact ⟨c, second, first, halves.first.displayName_eq, halves.sideOf_first, s.singleFace b,
    halves.otherFaces_first consistent, rfl, halves.second.displayName_eq, halves.sideOf_second⟩

theorem getCard_second_eq_first_stomp :
    let s := ofInsertions adventure
    ∃ a b, s.Halves a b "Bonecrusher Giant" "Stomp" ∧
      Text.sameFolded a.setCode "eld" = true ∧
      ∃ c, s.getCard { name := "Stomp", setCode := some "eld", verbose := true } = .ok c ∧
        s.getCard { name := "Bonecrusher Giant", setCode := some "eld", verbose := true } = .ok c ∧
        c.name = "Bonecrusher Giant" ∧ c.otherFaces.map (·.name) = ["Stomp"] := by
  intro s
  have rows : ∃ a ∈ s.cards, ∃ b ∈ s.cards,
      (∃ l ∈ [Layout.flip, .adventure, .split, .aftermath],
        a.layout = l.name ∧ b.layout = l.name) ∧
      a.setCode = b.setCode ∧ Text.sameFolded a.setCode "eld" = true ∧
      a.IsHalf "Bonecrusher Giant // Stomp" "Bonecrusher Giant" "a" b.uuid ∧
      b.IsHalf "Bonecrusher Giant // Stomp" "Stomp" "b" a.uuid ∧
      ∀ r ∈ s.cards, r.uuid = a.uuid ∨ r.uuid = b.uuid := by
    decide +kernel
  obtain ⟨a, storedA, b, storedB, layout, sameSet, inSet, first, second, alone⟩ := rows
  have halves : s.Halves a b "Bonecrusher Giant" "Stomp" :=
    { stored := ⟨storedA, storedB⟩, layout, sameSet, first, second, distinct := by decide
      alone := fun r row _ _ => alone r row }
  obtain ⟨c, byStomp, byGiant, named, -, f, faces, -, shown, -⟩ :=
    getCard_second_eq_first adventure halves inSet true false
  exact ⟨a, b, halves, inSet, c, byStomp, byGiant, named, by rw [faces, ← shown]; rfl⟩

end Store

end CardCatalog
