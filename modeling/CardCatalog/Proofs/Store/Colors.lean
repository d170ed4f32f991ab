import CardCatalog.Proofs.Query.Colors
import CardCatalog.Proofs.Siblings
import CardCatalog.Proofs.Store.OtherFaces

/-!
The colors of the cards that a catalogue answers with. Main statement: they are the entries of the
color column of the card's own row and, for the halves of split and aftermath cards, of the rows of
the other halves, each of them once.
-/

set_option autoImplicit false

namespace CardCatalog

/-! ## Texts without white space at their ends -/

namespace Text

theorem dropWhile_trimEnd_dropWhile (cs : List Char) :
    (trimEnd (cs.dropWhile isBlank)).dropWhile isBlank = trimEnd (cs.dropWhile isBlank) := by
  -- What is left begins as before, with a character that is not blank.
  have front : trimEnd (cs.dropWhile isBlank) <+: cs.dropWhile isBlank :=
    List.rdropWhile_prefix isBlank _
  cases left : trimEnd (cs.dropWhile isBlank) with
  | nil => rfl
  | cons c rest =>
    obtain ⟨back, same⟩ := left ▸ front
    have visible := List.head?_dropWhile_not isBlank cs
    rw [← same] at visible
    exact List.dropWhile_cons_of_neg (by simpa using visible)

theorem trimChars_trimChars (cs : List Char) : trimChars (trimChars cs) = trimChars cs := by
  calc trimEnd ((trimEnd (cs.dropWhile isBlank)).dropWhile isBlank)
    _ = trimEnd (trimEnd (cs.dropWhile isBlank)) := by rw [dropWhile_trimEnd_dropWhile]
    _ = trimEnd (cs.dropWhile isBlank) := List.rdropWhile_idempotent isBlank _

/-! ## Parts between separators -/

theorem splitOn_ne_nil (separator : Char) (cs : List Char) : splitOn separator cs ≠ [] := by
  fun_induction splitOn separator cs <;> simp

variable {separator : Char}

theorem splitOn_append_separator (front back : List Char) :
    splitOn separator (front ++ separator :: back) =
      splitOn separator front ++ splitOn separator back := by
  induction front with
  | nil => simp [splitOn]
  | cons c front ih =>
    obtain ⟨part, parts, same⟩ := List.exists_cons_of_ne_nil (splitOn_ne_nil separator front)
    by_cases separates : c = separator
    next => simp [splitOn, separates, ih]
    next => simp [splitOn, separates, ih, same]

theorem notMem_of_mem_splitOn {part cs : List Char} (member : part ∈ splitOn separator cs) :
    separator ∉ part := by
  induction cs generalizing part with
  | nil => simp_all [splitOn]
  | cons c rest ih =>
    obtain ⟨first, parts, same⟩ := List.exists_cons_of_ne_nil (splitOn_ne_nil separator rest)
    rw [same] at ih
    have absent : ∀ part ∈ first :: parts, separator ∉ part := fun _ => ih
    obtain ⟨inFirst, inOthers⟩ := List.forall_mem_cons.1 absent
    by_cases separates : c = separator
    next =>
      rw [splitOn, if_pos separates, same] at member
      rcases List.mem_cons.1 member with rfl | later
      next => exact List.not_mem_nil
      next => exact ih later
    next =>
      simp only [splitOn, if_neg separates, same] at member
      rcases List.mem_cons.1 member with rfl | later
      next => simp [Ne.symm separates, inFirst]
      next => exact inOthers part later

end Text

/-! ## Entries of a column -/

/-- The text stands in the column between two commas or next to an end, but for white space around
it, and there is something of it. -/
def IsEntry (e : String) (column : Option String) : Prop :=
  e ≠ "" ∧ ∃ text ∈ column, ∃ front part back, text.toList = front ++ part ++ back ∧
    (front = [] ∨ [','] <:+ front) ∧ ',' ∉ part ∧ (back = [] ∨ [','] <+: back) ∧
    Text.trimChars part = e.toList

section

variable {e : String} {column : Option String}

theorem mem_entries : e ∈ entries column ↔
    e ≠ "" ∧ ∃ part ∈ Text.splitOn ',' (column.getD "").toList, Text.trimChars part = e.toList := by
  have same (part : List Char) :
      String.ofList (Text.trimChars part) = e ↔ Text.trimChars part = e.toList := by
    rw [← String.toList_inj, String.toList_ofList]
  simp [entries, same, and_comm]

theorem mem_splitOn_comma {part cs : List Char} : part ∈ Text.splitOn ',' cs ↔
    ∃ front back, cs = front ++ part ++ back ∧ (front = [] ∨ [','] <:+ front) ∧ ',' ∉ part ∧
      (back = [] ∨ [','] <+: back) := by
  have ends (back : List Char) :
      EndsPart (fun _ => true) back ↔ back = [] ∨ [','] <+: back := by
    refine or_congr Iff.rfl ⟨?_, ?_⟩
    next => exact fun ⟨rest, comma, _⟩ => ⟨rest, comma.symm⟩
    next => exact fun ⟨rest, comma⟩ => ⟨rest, comma.symm, rfl⟩
  constructor
  next =>
    intro member
    have absent := Text.notMem_of_mem_splitOn member
    rw [splitOn_eq_splitWhere, mem_splitWhere_iff_of_notMem absent] at member
    obtain ⟨front, back, same, begins, stops⟩ := member
    exact ⟨front, back, same, begins.imp_right And.left, absent, (ends back).1 stops⟩
  next =>
    rintro ⟨front, back, same, begins, absent, stops⟩
    rw [splitOn_eq_splitWhere, mem_splitWhere_iff_of_notMem absent]
    exact ⟨front, back, same, begins.imp_right fun comma => ⟨comma, rfl⟩, (ends back).2 stops⟩

theorem mem_entries_iff : e ∈ entries column ↔ IsEntry e column := by
  rw [mem_entries, IsEntry]
  refine and_congr_right fun nonempty => ?_
  cases column with
  | none =>
    -- A missing column is read as an empty one, whose only part is empty.
    have absent : [] ≠ e.toList := fun none => nonempty (String.toList_eq_nil_iff.1 none.symm)
    simp [Text.splitOn, Text.trimChars, Text.trimEnd, absent]
  | some text =>
    simp only [Option.getD_some, mem_splitOn_comma, Option.mem_some, exists_eq_left']
    constructor
    next =>
      rintro ⟨part, ⟨front, back, same, begins, absent, stops⟩, trimmed⟩
      exact ⟨front, part, back, same, begins, absent, stops, trimmed⟩
    next =>
      rintro ⟨front, part, back, same, begins, absent, stops, trimmed⟩
      exact ⟨part, ⟨front, back, same, begins, absent, stops⟩, trimmed⟩

theorem nodup_entries (column : Option String) : (entries column).Nodup :=
  NameList.nodup_eraseDups _

theorem trim_of_mem_entries (member : e ∈ entries column) : e ≠ "" ∧ Text.trim e = e := by
  obtain ⟨nonempty, part, -, trimmed⟩ := mem_entries.1 member
  refine ⟨nonempty, ?_⟩
  rw [Text.trim, ← trimmed, Text.trimChars_trimChars, trimmed, String.ofList_toList]

/-! ## Columns put together -/

theorem mem_entries_separated (front back : List Char) :
    e ∈ entries (some (String.ofList (front ++ ',' :: back))) ↔
      e ∈ entries (some (String.ofList front)) ∨ e ∈ entries (some (String.ofList back)) := by
  simp only [mem_entries, Option.getD_some, String.toList_ofList, Text.splitOn_append_separator,
    List.mem_append, or_and_right, exists_or, and_or_left]

theorem entries_empty : entries (some "") = [] := by decide

theorem entries_none : entries none = [] := entries_empty

theorem mem_entries_append (a b : String) : e ∈ entries (some (a ++ "," ++ b)) ↔
    e ∈ entries (some a) ∨ e ∈ entries (some b) := by
  simpa [String.append_assoc] using mem_entries_separated (e := e) a.toList b.toList

theorem mem_entries_intercalate (texts : List String) :
    e ∈ entries (some (",".intercalate texts)) ↔ ∃ text ∈ texts, e ∈ entries (some text) := by
  induction texts with
  | nil => simp [entries_empty]
  | cons text rest ih =>
    cases rest with
    | nil => simp
    | cons next rest =>
      rw [String.intercalate_cons_cons, mem_entries_append, ih]
      simp

-- A comma at an end only adds an empty part, which is no entry.
theorem mem_entries_dropWhile (cs : List Char) :
    e ∈ entries (some (String.ofList (cs.dropWhile (· == ',')))) ↔
      e ∈ entries (some (String.ofList cs)) := by
  induction cs with
  | nil => rfl
  | cons c rest ih =>
    by_cases comma : c = ','
    next =>
      have split := mem_entries_separated (e := e) [] rest
      rw [List.nil_append, String.ofList_nil, entries_empty] at split
      rw [List.dropWhile_cons_of_pos (by simpa using comma), ih, comma, split]
      simp
    next => rw [List.dropWhile_cons_of_neg (by simpa using comma)]

theorem mem_entries_rdropWhile (cs : List Char) :
    e ∈ entries (some (String.ofList (cs.rdropWhile (· == ',')))) ↔
      e ∈ entries (some (String.ofList cs)) := by
  induction cs using List.reverseRecOn with
  | nil => rfl
  | append_singleton front c ih =>
    by_cases comma : c = ','
    next =>
      have split := mem_entries_separated (e := e) front []
      rw [String.ofList_nil, entries_empty] at split
      rw [List.rdropWhile_concat_pos _ _ _ (by simpa using comma), ih, comma, split]
      simp
    next => rw [List.rdropWhile_concat_neg _ _ _ (by simpa using comma)]

end

/-- The halves of split and aftermath cards have the colors of the whole card. -/
def CardRow.SharesColors (r : CardRow) : Prop :=
  r.layout = "split" ∨ r.layout = "aftermath"

namespace Store

variable {s : Store} {l : CardLookup} {c : Card} {r : CardRow} {e : String}

theorem exists_entry_filterMap_colors (rows : List CardRow) :
    (∃ text ∈ rows.filterMap (·.colors), e ∈ entries (some text)) ↔
      ∃ row ∈ rows, e ∈ entries row.colors := by
  simp only [List.mem_filterMap]
  constructor
  next =>
    rintro ⟨text, ⟨row, member, colored⟩, entry⟩
    exact ⟨row, member, colored ▸ entry⟩
  next =>
    rintro ⟨row, member, entry⟩
    cases colored : row.colors with
    | none => simp [colored, entries_none] at entry
    | some text => exact ⟨text, ⟨row, member, colored⟩, colored ▸ entry⟩

theorem mem_entries_wholeColors_of_shares (shares : r.SharesColors) :
    e ∈ entries (s.wholeColors r) ↔ e ∈ entries r.colors ∨
      ∃ sibling ∈ s.cards, NameList.holds r.otherFaceIds (some sibling.uuid) = true ∧
        e ∈ entries sibling.colors := by
  let siblings := s.cards.filter fun c => NameList.holds r.otherFaceIds (some c.uuid)
  let joined := ",".intercalate (siblings.filterMap (·.colors)) ++ "," ++ r.colors.getD ""
  have whole : s.wholeColors r = some (String.ofList
      ((joined.toList.dropWhile (· == ',')).rdropWhile (· == ','))) := by
    rcases shares with layout | layout <;> rw [wholeColors, layout] <;> rfl
  have own : entries (some (r.colors.getD "")) = entries r.colors := rfl
  rw [whole, mem_entries_rdropWhile, mem_entries_dropWhile, String.ofList_toList,
    mem_entries_append, mem_entries_intercalate, own, exists_entry_filterMap_colors, or_comm]
  simp [siblings, and_assoc]

theorem mem_entries_wholeColors : e ∈ entries (s.wholeColors r) ↔ e ∈ entries r.colors ∨
    r.SharesColors ∧ ∃ sibling ∈ s.cards,
      NameList.holds r.otherFaceIds (some sibling.uuid) = true ∧ e ∈ entries sibling.colors := by
  by_cases shares : r.SharesColors
  next => simp only [mem_entries_wholeColors_of_shares shares, shares, true_and]
  next =>
    have own : s.wholeColors r = r.colors := by
      rw [wholeColors, if_neg]
      simpa [CardRow.SharesColors] using shares
    simp only [own, shares, false_and, or_false]

/-- The row of a card that is answered, or of one of its other faces, with the colors of the
face. -/
theorem Answered.exists_row_of_face (answered : s.Answered l c) (card : tokenName? l.name = none)
    {f : Card} (face : f ∈ c :: c.otherFaces) :
    ∃ r ∈ s.cards, f.group.uuid = r.uuid ∧ f.colors = entries (s.wholeColors r) := by
  obtain ⟨r, row, rfl⟩ := answered.exists_row card
  rcases List.mem_cons.1 face with rfl | other
  next => exact ⟨r, row, rfl, rfl⟩
  next =>
    simp only [cardOf] at other
    split at other
    next => cases other
    next =>
      obtain ⟨r, row, rfl⟩ := exists_row_of_mem_otherFaces other
      exact ⟨r, row, rfl, rfl⟩

/-- The colors of a card that is answered and no token, and of each of its other faces, are
different trimmed texts: the entries of the color column of the row of the face and, where its
layout is that of a card in halves, those of all rows among its siblings. -/
theorem colors_of_answered (answered : s.Answered l c) (card : tokenName? l.name = none) :
    ∀ f ∈ c :: c.otherFaces, ∃ r ∈ s.cards, f.group.uuid = r.uuid ∧ f.colors.Nodup ∧
      (∀ e ∈ f.colors, e ≠ "" ∧ Text.trim e = e) ∧
      ∀ e, e ∈ f.colors ↔ IsEntry e r.colors ∨
        (r.layout = "split" ∨ r.layout = "aftermath") ∧ ∃ sibling ∈ s.cards,
          NameList.holds r.otherFaceIds (some sibling.uuid) = true ∧
            IsEntry e sibling.colors := by
  intro f face
  obtain ⟨r, row, uuid, colors⟩ := answered.exists_row_of_face card face
  refine ⟨r, row, uuid, ?_⟩
  rw [colors]
  refine ⟨nodup_entries _, fun e => trim_of_mem_entries, fun e => ?_⟩
  rw [mem_entries_wholeColors]
  simp only [mem_entries_iff, CardRow.SharesColors]

/-- The second half has no colors, and those of the third are listed without care. -/
def threeHalves : List Insertion :=
  let half (side uuid others : String) (colors : Option String) : Insertion :=
    .card
      { uuid, name := "Who // What // When", faceName := some uuid, layout := "split",
        side := some side, setCode := "UNH", otherFaceIds := some others, colors }
  [ .set ⟨"UNH", "funny", none⟩,
    half "a" "Who" "What,When" (some "R"),
    half "b" "What" "Who,When" none,
    half "c" "When" "Who,What" (some ", W ,U,,W") ]

theorem colors_of_answered_threeHalves :
    let s := ofInsertions threeHalves
    let l : CardLookup := { name := "who" }
    ∃ c, s.Answered l c ∧ tokenName? l.name = none ∧ c.colors = ["W", "U", "R"] ∧
      c.colors.Nodup ∧ (∀ e ∈ c.colors, e ≠ "" ∧ Text.trim e = e) ∧
      ∀ e, e ∈ c.colors ↔ IsEntry e (some "R") ∨ ∃ sibling ∈ s.cards,
        NameList.holds (some "What,When") (some sibling.uuid) = true ∧
          IsEntry e sibling.colors := by
  intro s l
  have named : tokenName? l.name = none := by decide
  have parts : (s.getCard l).toOption.map (fun c => (c.group.uuid, c.colors)) =
      some ("Who", ["W", "U", "R"]) := by
    decide +kernel
  have own : ∀ r ∈ s.cards, r.uuid = "Who" →
      r.layout = "split" ∧ r.colors = some "R" ∧ r.otherFaceIds = some "What,When" := by
    decide +kernel
  cases found : s.getCard l with
  | error e => simp [found, Except.toOption] at parts
  | ok c =>
    obtain ⟨uuid, colors⟩ : c.group.uuid = "Who" ∧ c.colors = ["W", "U", "R"] := by
      simpa [found, Except.toOption] using parts
    have answered : s.Answered l c := .lookedUp found
    obtain ⟨r, row, same, nodup, trimmed, entry⟩ :=
      colors_of_answered answered named c List.mem_cons_self
    obtain ⟨layout, ownColors, others⟩ := own r row (same.symm.trans uuid)
    simp only [layout, ownColors, others, true_or, true_and] at entry
    exact ⟨c, answered, named, colors, nodup, trimmed, entry⟩

end Store

end CardCatalog
