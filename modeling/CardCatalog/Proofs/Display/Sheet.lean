import CardCatalog.Display.Sheet
import CardCatalog.Proofs.Display.Wrapping

/-!
The picture of a card. Main statement: whatever is printed on a card, its picture has straight
sides, and boxes that stand side by side have the same height.
-/

set_option autoImplicit false

namespace CardCatalog.Display

open Text

/-! ## Lines of text -/

theorem mem_of_mem_splitOn {separator c : Char} {part cs : List Char}
    (member : part ∈ splitOn separator cs) (inside : c ∈ part) : c ∈ cs := by
  fun_induction splitOn separator cs generalizing part with
  | case1 =>
    rw [List.mem_singleton.1 member] at inside
    cases inside
  | case2 rest ih =>
    rcases List.mem_cons.1 member with rfl | member
    next => cases inside
    next => exact List.mem_cons_of_mem separator (ih member inside)
  | case3 d rest =>
    rw [List.mem_singleton.1 member, List.mem_singleton] at inside
    rw [inside]
    exact List.mem_cons_self
  | case4 d rest _ first others split ih =>
    rw [split] at ih
    rcases List.mem_cons.1 member with rfl | member
    next =>
      rcases List.mem_cons.1 inside with rfl | inside
      next => exact List.mem_cons_self
      next => exact List.mem_cons_of_mem d (ih List.mem_cons_self inside)
    next => exact List.mem_cons_of_mem d (ih (List.mem_cons_of_mem first member) inside)

theorem subset_of_mem_paragraphs {part cs : List Char} (member : part ∈ paragraphs cs) :
    part ⊆ cs := by
  have lines : ∃ line ∈ splitOn '\n' cs, part ⊆ line := by
    have ended : ∀ p ∈ (splitOn '\n' cs).dropLast.map fun line =>
        if line.getLast? = some '\r' then line.dropLast else line,
        ∃ line ∈ splitOn '\n' cs, p ⊆ line := by
      intro p inside
      obtain ⟨line, kept, rfl⟩ := List.mem_map.1 inside
      refine ⟨line, List.mem_of_mem_dropLast kept, ?_⟩
      split_ifs
      next => exact List.dropLast_subset line
      next => exact List.Subset.refl line
    rw [paragraphs] at member
    split at member
    next => exact ended part member
    next => exact ended part member
    next last _ found =>
      rcases List.mem_append.1 member with member | member
      next => exact ended part member
      next =>
        rw [List.mem_singleton.1 member]
        exact ⟨last, List.mem_of_getLast? found, List.Subset.refl last⟩
  obtain ⟨line, split, subset⟩ := lines
  exact fun c inside => mem_of_mem_splitOn split (subset inside)

theorem mem_of_mem_intercalate {α : Type} {a : α} {separator : List α} {parts : List (List α)}
    (member : a ∈ separator.intercalate parts) : a ∈ separator ∨ ∃ part ∈ parts, a ∈ part := by
  induction parts with
  | nil => simp [List.intercalate_nil] at member
  | cons part parts ih =>
    cases parts with
    | nil =>
      rw [List.intercalate_singleton] at member
      exact .inr ⟨part, List.mem_cons_self, member⟩
    | cons next parts =>
      rw [List.intercalate_cons_cons, List.mem_append, List.mem_append] at member
      obtain (member | member) | member := member
      next => exact .inr ⟨part, List.mem_cons_self, member⟩
      next => exact .inl member
      next =>
        obtain inside | ⟨p, inside, within⟩ := ih member
        next => exact .inl inside
        next => exact .inr ⟨p, List.mem_cons_of_mem part inside, within⟩

/-! ## Boxes -/

/-- A face on which control characters stand nowhere but as white space in its text. -/
structure Printable (f : Card) : Prop where
  name : Plain f.name.toList
  manaCost : ∀ cost ∈ f.manaCost, Plain cost.toList
  typeLine : Plain f.typeLine.toList
  setCode : Plain f.setCode.toList
  power : ∀ power ∈ f.power, Plain power.toList
  toughness : ∀ toughness ∈ f.toughness, Plain toughness.toList
  loyalty : ∀ loyalty ∈ f.loyalty, Plain loyalty.toList
  text : ∀ text ∈ f.text, Readable text.toList

theorem plain_getD {o : Option String} (plain : ∀ s ∈ o, Plain s.toList) :
    Plain (o.getD "").toList := by
  cases o with
  | none => exact plain_nil
  | some s => exact plain s rfl

namespace Printable

variable {f : Card}

theorem strength (printable : Printable f) : Plain f.strength.toList := by
  unfold Card.strength
  split
  next power found =>
    have slash : Plain "/".toList := by decide
    rw [String.toList_append, String.toList_append, plain_append, plain_append]
    exact ⟨⟨printable.power power found, slash⟩, plain_getD printable.toughness⟩
  next loyalty none found => exact printable.loyalty loyalty found
  next => exact plain_nil

theorem textLines (printable : Printable f) (limit : Nat) :
    ∀ line ∈ textLines limit f, Plain line := by
  intro line member
  obtain member | ⟨wrapped, inside, member⟩ := mem_of_mem_intercalate member
  next =>
    rw [List.mem_singleton.1 member]
    exact plain_nil
  next =>
    obtain ⟨part, paragraph, rfl⟩ := List.mem_map.1 inside
    have subset := subset_of_mem_paragraphs paragraph
    have readable : Readable part := by
      intro c within control
      cases given : f.text with
      | none => simpa [given] using subset within
      | some text =>
        rw [given] at subset
        exact printable.text text given c (subset within) control
    exact (isLine_of_mem_wrap readable member).plain

end Printable

theorem Fills.enclose {n : Nat} {line : List Char} (fills : Fills n line) {left right : Char}
    (plain : isControl left = false ∧ isControl right = false)
    (single : charWidth left = 1 ∧ charWidth right = 1) :
    Fills (n + 2) (left :: line ++ [right]) where
  plain := by simp [fills.plain, plain]
  columns_eq := by
    simp only [List.cons_append, columns_cons, columns_append, columns_nil, fills.columns_eq,
      single]
    omega

theorem Fills.bordered {n : Nat} {line : List Char} (fills : Fills n line) :
    Fills (n + 2) (bordered line) :=
  fills.enclose ⟨rfl, rfl⟩ (by decide +kernel)

theorem fills_rule (n : Nat) : Fills n (rule n) :=
  fills_replicate rfl (by decide +kernel) n

theorem exists_faceBox {width : Nat} {f : Card} (wide : 4 ≤ width) (printable : Printable f)
    (minText : Nat) : ∃ box, faceBox? width minText f = some box ∧
      box.length = max minText (textLines (width - 4) f).length + 7 ∧
      ∀ line ∈ box, Fills width line := by
  -- A border and a blank on each side of the text.
  obtain ⟨text, rfl⟩ := Nat.exists_eq_add_of_le' wide
  obtain ⟨title, titled, fillsTitle⟩ :=
    exists_spread printable.name (plain_getD printable.manaCost) (text + 2)
  obtain ⟨kind, kinded, fillsKind⟩ := exists_spread printable.typeLine printable.setCode (text + 2)
  obtain ⟨strength, padded, fillsStrength⟩ := exists_padLeft printable.strength (text + 2)
  have lines : ∀ line ∈ textLines text f ++
      List.replicate (minText - (textLines text f).length) [], ∃ row,
      (pad? text line).map (fun line => bordered (' ' :: line ++ [' '])) = some row ∧
        Fills (text + 4) row := by
    intro line member
    have plain : Plain line := by
      rcases List.mem_append.1 member with member | member
      next => exact printable.textLines text line member
      next =>
        rw [List.eq_of_mem_replicate member]
        exact plain_nil
    obtain ⟨row, padded, fills⟩ := exists_pad plain text
    exact ⟨_, by rw [padded]; rfl, (fills.enclose ⟨rfl, rfl⟩ ⟨rfl, rfl⟩).bordered⟩
  obtain ⟨body, filled, length, fillsBody⟩ := exists_mapM lines
  have drawn : faceBox? (text + 4) minText f = some
      ([ '┌' :: rule (text + 2) ++ ['┐'], bordered title, bordered (blanks (text + 2)),
        bordered kind, bordered (blanks (text + 2)) ] ++ body ++
        [ bordered strength, '└' :: rule (text + 2) ++ ['┘'] ]) := by
    have inner : text + 4 - 2 = text + 2 := by omega
    have within : text + 2 - 2 = text := by omega
    simp only [faceBox?, inner, within, titled, kinded, padded, filled, Option.bind_eq_bind,
      Option.bind_some, Option.pure_def]
  refine ⟨_, drawn, ?_, ?_⟩
  next =>
    rw [Nat.add_sub_cancel]
    simp only [List.length_append, List.length_cons, List.length_nil, List.length_replicate,
      length]
    omega
  next =>
    have top : Fills (text + 4) ('┌' :: rule (text + 2) ++ ['┐']) :=
      (fills_rule (text + 2)).enclose ⟨rfl, rfl⟩ (by decide +kernel)
    have bottom : Fills (text + 4) ('└' :: rule (text + 2) ++ ['┘']) :=
      (fills_rule (text + 2)).enclose ⟨rfl, rfl⟩ (by decide +kernel)
    have empty : Fills (text + 4) (bordered (blanks (text + 2))) := (fills_blanks _).bordered
    simp only [List.forall_mem_append, List.forall_mem_cons]
    exact ⟨⟨⟨top, fillsTitle.bordered, empty, fillsKind.bordered, empty, by simp⟩, fillsBody⟩,
      fillsStrength.bordered, bottom, by simp⟩

/-! ## Sheets -/

def SideBySide (c : Card) : Prop :=
  1 < c.printedFaces.length ∧ (c.layout = .transform ∨ c.layout = .meld)

theorem sideBySide_iff {c : Card} : SideBySide c ↔
    (1 < c.printedFaces.length && (c.layout = .transform || c.layout = .meld)) = true := by
  simp [SideBySide]

/-- The lines of text in every box where boxes stand side by side. -/
def longestText (width : Nat) (c : Card) : Nat :=
  (c.printedFaces.map fun f => (textLines (width - 4) f).length).foldl max minTextLines

/-- The picture of a card is as wide as it was asked to be, or as its boxes with their gaps where
they stand side by side; then all of them have the height of the picture. -/
theorem cardSheet_fills {width : Nat} {c : Card} (wide : 4 ≤ width)
    (printable : ∀ f ∈ c.printedFaces, Printable f) :
    ∃ lines, cardSheet? width c = some lines ∧
      (¬ SideBySide c → ∀ line ∈ lines, Fills width line) ∧
      (SideBySide c →
        (∀ line ∈ lines,
          Fills (c.printedFaces.length * width + 2 * (c.printedFaces.length - 1)) line) ∧
        ∃ boxes, c.printedFaces.mapM (faceBox? width (longestText width c)) = some boxes ∧
          columnize? width 2 false boxes = some lines ∧
          ∀ box ∈ boxes, box.length = lines.length) := by
  have drawn (minText : Nat) : ∃ boxes, c.printedFaces.mapM (faceBox? width minText) = some boxes ∧
      boxes.length = c.printedFaces.length ∧ ∀ box ∈ boxes, (∃ f ∈ c.printedFaces,
        box.length = max minText (textLines (width - 4) f).length + 7) ∧
        ∀ line ∈ box, Fills width line := by
    apply exists_mapM
    intro f member
    obtain ⟨box, drawn, height, fills⟩ := exists_faceBox wide (printable f member) minText
    exact ⟨box, drawn, ⟨f, member, height⟩, fills⟩
  by_cases beside : SideBySide c
  next =>
    obtain ⟨boxes, found, count, fills⟩ := drawn (longestText width c)
    -- No text is longer than the number of lines that all boxes are given.
    have same : ∀ box ∈ boxes, box.length = longestText width c + 7 := by
      intro box member
      obtain ⟨f, face, height⟩ := (fills box member).1
      rw [height, Nat.max_eq_left]
      apply le_foldl_max
      exact List.mem_map_of_mem face
    have nonempty : boxes ≠ [] := by
      apply List.ne_nil_of_length_pos
      have several := beside.1
      omega
    obtain ⟨lines, columnized, height, straight⟩ := exists_columnize nonempty same
      fun box member line inside => ((fills box member).2 line inside).plain
    rw [count] at straight
    refine ⟨lines, ?_, fun stacked => absurd beside stacked, fun _ =>
      ⟨straight, boxes, found, columnized, fun box member => ?_⟩⟩
    next =>
      rw [longestText] at found
      simp only [cardSheet?, if_pos (sideBySide_iff.1 beside), found, Option.bind_eq_bind,
        Option.bind_some]
      exact columnized
    next => rw [same box member, height]
  next =>
    obtain ⟨boxes, found, -, fills⟩ := drawn minTextLines
    refine ⟨boxes.flatten, ?_, fun _ line member => ?_, fun asked => absurd asked beside⟩
    next =>
      simp only [cardSheet?, if_neg (mt sideBySide_iff.2 beside), found, Option.bind_eq_bind,
        Option.bind_some, Option.pure_def]
    next =>
      obtain ⟨box, inside, member⟩ := List.mem_flatten.1 member
      exact (fills box inside).2 line member

def insectileAberration : Card where
  name := "Insectile Aberration"
  names := ["Delver of Secrets", "Insectile Aberration"]
  group := ⟨"aberration-isd", some .b, ["delver-isd"]⟩
  layout := .transform
  setCode := "ISD"
  power := some "3"
  toughness := some "2"
  types := ["Creature"]
  typeLine := "Creature — Human Insect"
  text := some "Flying"

def delverOfSecrets : Card where
  name := "Delver of Secrets"
  names := ["Delver of Secrets", "Insectile Aberration"]
  group := ⟨"delver-isd", some .a, ["aberration-isd"]⟩
  layout := .transform
  setCode := "ISD"
  manaCost := some "{U}"
  power := some "1"
  toughness := some "1"
  types := ["Creature"]
  typeLine := "Creature — Human Wizard"
  text := some "Look at the top card of your library.\nYou may reveal it."
  otherFaces := [insectileAberration]

theorem cardSheet_fills_delverOfSecrets :
    4 ≤ sheetWidth ∧ (∀ f ∈ delverOfSecrets.printedFaces, Printable f) ∧
    SideBySide delverOfSecrets ∧
    ∃ lines, cardSheet? sheetWidth delverOfSecrets = some lines ∧
      ∀ line ∈ lines, Fills (sheetWidth + 2 + sheetWidth) line := by
  have sides : delverOfSecrets.printedFaces = [delverOfSecrets, insectileAberration] := by
    have sorted : [delverOfSecrets, insectileAberration].mergeSort (fun a b =>
        decide (sideRank a.side ≤ sideRank b.side)) = [delverOfSecrets, insectileAberration] :=
      List.mergeSort_of_pairwise (by decide)
    exact sorted
  have printable : ∀ f ∈ delverOfSecrets.printedFaces, Printable f := by
    rw [sides]
    simp only [List.forall_mem_cons]
    refine ⟨?_, ?_, by simp⟩
    next => constructor <;> decide
    next => constructor <;> decide
  have beside : SideBySide delverOfSecrets := ⟨by rw [sides]; decide, .inl rfl⟩
  obtain ⟨lines, drawn, -, fills⟩ := cardSheet_fills (by decide : 4 ≤ sheetWidth) printable
  refine ⟨by decide, printable, beside, lines, drawn, ?_⟩
  have whole := (fills beside).1
  rwa [sides] at whole

end CardCatalog.Display
