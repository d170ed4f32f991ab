import CardCatalog.Display.Page
import CardCatalog.Proofs.Display.Column
import CardCatalog.Proofs.Text.Bytes
import CardCatalog.Proofs.Text.LetterCase

/-!
The formats of a card, two in a line. A line has a field of fixed width for the left one. Main
statement: the words of a line are those of its two cells, unless a left cell with a status fills
the field, as the right one then begins where the status ends.
-/

set_option autoImplicit false

namespace CardCatalog.Display

open Text

/-! ## Cells -/

/-- A name of ASCII characters without white space. -/
structure IsFormat (format : String) : Prop where
  isWord : IsWord format.toList
  ascii : ∀ c ∈ format.toList, c.toNat < 128

instance (format : String) : Decidable (IsFormat format) :=
  decidable_of_iff ((format.toList ≠ [] ∧ Solid format.toList) ∧
      format.toList.all fun c => c.toNat < 128) <| by
    rw [List.all_eq_true]
    simp only [decide_eq_true_eq]
    exact ⟨fun h => ⟨⟨h.1.1, h.1.2⟩, h.2⟩, fun h => ⟨⟨h.isWord.1, h.isWord.2⟩, h.ascii⟩⟩

def label (format : String) : List Char :=
  format.toList.modifyHead Char.toUpper ++ [':']

/-- The words of the cell of a format: its label, and its status if the card has one. -/
def cellWords (formats : List Legality) (format : String) : List (List Char) :=
  label format :: [statusOf formats format].filter (· ≠ [])

theorem length_label (format : String) : (label format).length = format.toList.length + 1 := by
  simp [label]

section

variable {formats : List Legality} {format : String}

theorem capitalize_eq (isFormat : IsFormat format) :
    capitalize format.toList ++ [':'] = label format := by
  unfold label
  cases named : format.toList with
  | nil => exact absurd named isFormat.isWord.nonempty
  | cons c rest =>
    have ascii : c.val < 0x80 := isFormat.ascii c (named ▸ List.mem_cons_self)
    rw [capitalize, upperChar, if_pos ascii]
    rfl

theorem isWord_label (isFormat : IsFormat format) : IsWord (label format) where
  nonempty := by simp [label]
  solid := by
    have colon : Solid [':'] := by decide
    have solid := isFormat.isWord.solid
    have ascii := isFormat.ascii
    unfold label
    cases named : format.toList with
    | nil => exact colon
    | cons c rest =>
      rw [named, solid_cons] at solid
      rw [named, List.forall_mem_cons] at ascii
      exact solid_append.2 ⟨solid_cons.2 ⟨isBlank_toUpper ascii.1 solid.1, solid.2⟩, colon⟩

theorem solid_abbreviate {status : String} (solid : Solid status.toList) :
    Solid (abbreviate status) := by
  have low := solid_lower solid
  have point : Solid ['.'] := by decide
  simp only [abbreviate]
  split_ifs
  next =>
    rw [solid_append]
    exact ⟨fun c member => low c (List.mem_of_mem_take member), point⟩
  next => exact low

theorem length_abbreviate_le (status : String) : (abbreviate status).length ≤ statusWidth := by
  simp only [abbreviate]
  split_ifs with long
  next =>
    have positive : 0 < statusWidth := by decide
    rw [List.length_append, List.length_take, List.length_singleton]
    omega
  next => exact Nat.not_lt.1 long

theorem solid_statusOf (solid : ∀ l ∈ formats, Solid l.status.toList) (format : String) :
    Solid (statusOf formats format) := by
  unfold statusOf
  split
  next l found => exact solid_abbreviate (solid l (List.mem_of_find?_eq_some found))
  next => exact solid_nil

theorem length_statusOf_le (formats : List Legality) (format : String) :
    (statusOf formats format).length ≤ statusWidth := by
  unfold statusOf
  split
  next l _ => exact length_abbreviate_le l.status
  next => exact Nat.zero_le _

theorem blank_of_mem_blanks (n : Nat) : ∀ c ∈ blanks n, isBlank c = true := by
  intro c member
  rw [List.eq_of_mem_replicate member]
  rfl

theorem words_append_blanks {n : Nat} (room : 0 < n) (front back : List Char) :
    words (front ++ blanks n ++ back) = words front ++ words back := by
  apply words_append_append _ (blank_of_mem_blanks n)
  simp [blanks, room.ne']

/-- Text right before a cell runs into its label, and text right behind it into its status. -/
theorem words_append_formatCell (formats : List Legality) {width : Nat} {front : List Char}
    (solid : Solid front) (isFormat : IsFormat format) (room : format.utf8ByteSize + 2 ≤ width)
    (back : List Char) :
    words (front ++ (formatCell formats width format ++ back)) =
      (front ++ label format) :: words (statusOf formats format ++ back) := by
  have bytes := length_le_utf8ByteSize format
  have gap : 0 < width - (label format).length := by
    rw [length_label]
    omega
  have first : IsWord (front ++ label format) :=
    ⟨by simp [label], solid_append.2 ⟨solid, (isWord_label isFormat).solid⟩⟩
  have cut : front ++ (formatCell formats width format ++ back) =
      front ++ label format ++ blanks (width - (label format).length) ++
        (statusOf formats format ++ back) := by
    rw [formatCell, capitalize_eq isFormat, fillTo]
    simp only [List.append_assoc]
  rw [cut, words_append_blanks gap, first.words_eq]
  rfl

theorem length_formatCell {width : Nat} (isFormat : IsFormat format)
    (room : format.utf8ByteSize + 2 ≤ width) :
    (formatCell formats width format).length = width + (statusOf formats format).length := by
  have bytes := length_le_utf8ByteSize format
  have labelled := length_label format
  rw [formatCell, capitalize_eq isFormat, fillTo, blanks]
  simp only [List.length_append, List.length_replicate]
  omega

end

/-! ## Lines -/

section

variable (formats : List Legality) (width : Nat)

/-- Whether the right cell of a line begins where the status in the left one ends, when labels
on the left are filled to a width. -/
def RunsOn (left : String) : Prop :=
  statusOf formats left ≠ [] ∧ leftCellWidth ≤ width + (statusOf formats left).length

instance (left : String) : Decidable (RunsOn formats width left) :=
  inferInstanceAs (Decidable (_ ∧ _))

/-- The words of a line of one or two formats. -/
def lineWords : List String → List (List Char)
  | [left, right] =>
    if RunsOn formats width left then
      label left :: (statusOf formats left ++ label right) ::
        [statusOf formats right].filter (· ≠ [])
    else cellWords formats left ++ cellWords formats right
  | shown => shown.flatMap (cellWords formats)

end

section

variable {formats : List Legality} {width : Nat} {left right : String}

theorem words_formatCell_append (formats : List Legality) (isFormat : IsFormat left)
    (room : left.utf8ByteSize + 2 ≤ width) (back : List Char) :
    words (formatCell formats width left ++ back) =
      label left :: words (statusOf formats left ++ back) :=
  words_append_formatCell formats solid_nil isFormat room back

theorem words_formatCell (solid : ∀ l ∈ formats, Solid l.status.toList) (isFormat : IsFormat left)
    (room : left.utf8ByteSize + 2 ≤ width) :
    words (formatCell formats width left) = cellWords formats left := by
  have cell := words_formatCell_append formats isFormat room []
  rw [List.append_nil, List.append_nil, (solid_statusOf solid left).words_eq] at cell
  exact cell

theorem words_formatLine (left right : List Char) :
    words (formatLine left right) = words (fillTo leftCellWidth left ++ right) := by
  rw [formatLine, words_trimEnd, List.append_assoc, words_blank_append (blank_of_mem_blanks 2)]

theorem words_formatLine_of_apart (solid : ∀ l ∈ formats, Solid l.status.toList)
    (isFormat : IsFormat left) (room : left.utf8ByteSize + 2 ≤ width)
    (apart : ¬ RunsOn formats width left) (back : List Char) :
    words (formatLine (formatCell formats width left) back) =
      cellWords formats left ++ words back := by
  rw [words_formatLine, fillTo]
  -- Without a status the cell ends with the blanks behind its label, however long it is.
  by_cases none : statusOf formats left = []
  next =>
    rw [List.append_assoc, words_formatCell_append formats isFormat room, none, List.nil_append,
      words_blank_append (blank_of_mem_blanks _), cellWords, none]
    rfl
  next =>
    have short : width + (statusOf formats left).length < leftCellWidth := by
      by_contra long
      exact apart ⟨none, Nat.not_lt.1 long⟩
    have gap : 0 < leftCellWidth - (formatCell formats width left).length := by
      rw [length_formatCell isFormat room]
      omega
    rw [words_append_blanks gap, words_formatCell solid isFormat room]

theorem words_formatLine_of_runsOn {rightWidth : Nat}
    (solid : ∀ l ∈ formats, Solid l.status.toList)
    (isFormat : IsFormat left) (room : left.utf8ByteSize + 2 ≤ width)
    (isFormat' : IsFormat right) (room' : right.utf8ByteSize + 2 ≤ rightWidth)
    (runsOn : RunsOn formats width left) :
    words (formatLine (formatCell formats width left) (formatCell formats rightWidth right)) =
      label left :: (statusOf formats left ++ label right) ::
        [statusOf formats right].filter (· ≠ []) := by
  have full : leftCellWidth - (formatCell formats width left).length = 0 := by
    rw [length_formatCell isFormat room]
    exact Nat.sub_eq_zero_of_le runsOn.2
  have behind := words_append_formatCell formats (solid_statusOf solid left) isFormat' room' []
  rw [List.append_nil, List.append_nil, (solid_statusOf solid right).words_eq] at behind
  rw [words_formatLine, fillTo, full, blanks, List.replicate_zero, List.append_nil,
    words_formatCell_append formats isFormat room, behind]

theorem everySecond_cons {α : Type} (a : α) (items : List α) :
    everySecond (a :: items) = a :: everySecond (items.drop 1) := by
  cases items <;> rfl

theorem chunks_cons_cons {α : Type} (a b : α) (items : List α) :
    chunks 2 (a :: b :: items) = [a, b] :: chunks 2 items := by
  rw [chunks]
  simp

theorem chunks_singleton {α : Type} (a : α) : chunks 2 [a] = [[a]] := by
  rw [chunks, chunks]
  simp

/-- Labels on both sides are filled to widths that have room for them. -/
theorem words_formatLines {rightWidth : Nat} {shown : List String}
    (solid : ∀ l ∈ formats, Solid l.status.toList) (areFormats : ∀ f ∈ shown, IsFormat f)
    (room : ∀ f ∈ everySecond shown, f.utf8ByteSize + 2 ≤ width)
    (room' : ∀ f ∈ everySecond (shown.drop 1), f.utf8ByteSize + 2 ≤ rightWidth) :
    (formatLines formats width rightWidth shown).map words =
      (chunks 2 shown).map (lineWords formats width) := by
  fun_induction formatLines formats width rightWidth shown with
  | case1 => rw [chunks]; simp
  | case2 last =>
    have isFormat := areFormats last List.mem_cons_self
    have fits := room last List.mem_cons_self
    have line : words (formatLine (formatCell formats width last) []) =
        cellWords formats last := by
      rw [words_formatLine, List.append_nil, fillTo, words_append_blank (blank_of_mem_blanks _),
        words_formatCell solid isFormat fits]
    simp [chunks_singleton, lineWords, line]
  | case3 left right rest ih =>
    rw [List.forall_mem_cons, List.forall_mem_cons] at areFormats
    obtain ⟨isFormat, isFormat', others⟩ := areFormats
    rw [everySecond, List.forall_mem_cons] at room
    rw [List.drop_one, List.tail_cons, everySecond_cons, List.forall_mem_cons] at room'
    rw [chunks_cons_cons, List.map_cons, List.map_cons, ih others room.2 room'.2]
    congr 1
    rw [lineWords]
    split_ifs with runsOn
    next => exact words_formatLine_of_runsOn solid isFormat room.1 isFormat' room'.1 runsOn
    next =>
      rw [words_formatLine_of_apart solid isFormat room.1 runsOn,
        words_formatCell solid isFormat' room'.1]

theorem utf8ByteSize_le_labelWidth {names : List String} {name : String} (member : name ∈ names) :
    name.utf8ByteSize + 2 ≤ labelWidth names := by
  apply Nat.add_le_add_right
  apply le_foldl_max
  exact List.mem_map_of_mem member

theorem not_runsOn {names : List String} (short : ∀ name ∈ names, name.utf8ByteSize ≤ 10)
    (left : String) : ¬ RunsOn formats (labelWidth names) left := by
  have narrow : labelWidth names ≤ 10 + 2 := by
    apply Nat.add_le_add_right
    simpa [foldl_max_le_iff] using short
  have status := length_statusOf_le formats left
  have six : statusWidth = 6 := rfl
  have field : leftCellWidth = 19 := rfl
  rintro ⟨-, long⟩
  omega

theorem lineWords_of_apart (apart : ∀ left, ¬ RunsOn formats width left) :
    lineWords formats width = fun line => line.flatMap (cellWords formats) := by
  funext line
  unfold lineWords
  split
  next left right =>
    rw [if_neg (apart left)]
    simp
  next => rfl

end

/-- Each line has the words of its two formats, or a status and a label between them as one word;
this takes a name of eleven letters on the left. -/
theorem words_formatsSection {formats : List Legality} {shown : List String}
    (solid : ∀ l ∈ formats, Solid l.status.toList) (areFormats : ∀ f ∈ shown, IsFormat f) :
    (formatsSection formats shown).map words =
      (chunks 2 shown).map (lineWords formats (labelWidth (everySecond shown))) ∧
    ((∀ left ∈ everySecond shown, left.utf8ByteSize ≤ 10) →
      (formatsSection formats shown).map words =
        (chunks 2 shown).map fun line => line.flatMap (cellWords formats)) := by
  have lines : (formatsSection formats shown).map words =
      (chunks 2 shown).map (lineWords formats (labelWidth (everySecond shown))) := by
    apply words_formatLines solid areFormats
    next => exact fun f member => utf8ByteSize_le_labelWidth member
    next => exact fun f member => utf8ByteSize_le_labelWidth member
  refine ⟨lines, fun short => ?_⟩
  rw [lines, lineWords_of_apart (not_runsOn short)]

theorem words_formatsSection_vintage :
    let formats : List Legality := [⟨"modern", "Legal"⟩, ⟨"vintage", "Restricted"⟩]
    let shown := ["modern", "vintage", "pauper"]
    (∀ l ∈ formats, Solid l.status.toList) ∧ (∀ f ∈ shown, IsFormat f) ∧
    (∀ left ∈ everySecond shown, left.utf8ByteSize ≤ 10) ∧
    (formatsSection formats shown).map words =
      [["Modern:".toList, "legal".toList, "Vintage:".toList, "restr.".toList],
        ["Pauper:".toList]] := by
  intro formats shown
  have solid : ∀ l ∈ formats, Solid l.status.toList := by decide
  have areFormats : ∀ f ∈ shown, IsFormat f := by decide
  have short : ∀ left ∈ everySecond shown, left.utf8ByteSize ≤ 10 := by decide
  refine ⟨solid, areFormats, short, ?_⟩
  rw [(words_formatsSection solid areFormats).2 short]
  simp only [shown, chunks_cons_cons, chunks_singleton]
  decide +kernel

-- The label of a name of eleven letters and a status of six fill the field of nineteen.
theorem words_formatsSection_ne : ¬ ∀ (formats : List Legality) (shown : List String),
    (∀ l ∈ formats, Solid l.status.toList) → (∀ f ∈ shown, IsFormat f) →
    (formatsSection formats shown).map words =
      (chunks 2 shown).map fun line => line.flatMap (cellWords formats) := by
  intro apart
  have solid : ∀ l ∈ [Legality.mk "oathbreaker" "Banned"], Solid l.status.toList := by decide
  have areFormats : ∀ f ∈ ["oathbreaker", "modern"], IsFormat f := by decide
  have same := apart _ _ solid areFormats
  have lines : formatsSection [⟨"oathbreaker", "Banned"⟩] ["oathbreaker", "modern"] =
      ["  Oathbreaker: bannedModern:".toList] := by
    decide +kernel
  rw [lines, chunks_cons_cons, chunks] at same
  revert same
  decide +kernel

end CardCatalog.Display
