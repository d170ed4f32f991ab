import CardCatalog.Proofs.NameList

/-!
The two readings of a column of identities: as a list of names, where a comma before a space
belongs to the name, and as the siblings of a face, where every comma separates and the blanks
around an identity are dropped. Main statement: whoever is among the names is among the siblings,
and of the siblings those are among the names that stand alone between their commas.
-/

set_option autoImplicit false

namespace CardCatalog

/-! ## Splitting at some of the commas -/

/-- Splits at each comma that is told to separate by what follows it. -/
def splitWhere (separates : List Char → Bool) : List Char → List (List Char)
  | [] => [[]]
  | c :: rest =>
    if c = ',' ∧ separates rest = true then [] :: splitWhere separates rest
    else (splitWhere separates rest).modifyHead (c :: ·)

/-- What may follow a part: nothing, or a comma that separates. -/
def EndsPart (separates : List Char → Bool) (back : List Char) : Prop :=
  back = [] ∨ ∃ rest, back = ',' :: rest ∧ separates rest = true

section

variable {separates : List Char → Bool} {part cs : List Char}

theorem splitWhere_separated {rest : List Char} (separated : separates rest = true) :
    splitWhere separates (',' :: rest) = [] :: splitWhere separates rest := by
  simp [splitWhere, separated]

theorem splitWhere_ne_nil (separates : List Char → Bool) (cs : List Char) :
    splitWhere separates cs ≠ [] := by
  induction cs with
  | nil => simp [splitWhere]
  | cons c rest ih =>
    unfold splitWhere
    split
    next => exact List.cons_ne_nil _ _
    next => simpa using ih

theorem head?_splitWhere_append (absent : ',' ∉ part) {back : List Char}
    (ends : EndsPart separates back) :
    (splitWhere separates (part ++ back)).head? = some part := by
  induction part with
  | nil =>
    rcases ends with rfl | ⟨rest, rfl, separated⟩
    next => rfl
    next => simp [splitWhere_separated separated]
  | cons c part ih =>
    obtain ⟨other, absent⟩ := not_or.1 (List.mem_cons.not.1 absent)
    simp [splitWhere, Ne.symm other, ih absent]

theorem exists_append_of_head?_splitWhere
    (head : (splitWhere separates cs).head? = some part) :
    ∃ back, cs = part ++ back ∧ EndsPart separates back := by
  induction cs generalizing part with
  | nil =>
    simp only [splitWhere, List.head?_cons, Option.some.injEq] at head
    exact ⟨[], by simp [← head], .inl rfl⟩
  | cons c rest ih =>
    unfold splitWhere at head
    split at head
    next separated =>
      obtain ⟨rfl, separated⟩ := separated
      cases head
      exact ⟨',' :: rest, rfl, .inr ⟨rest, rfl, separated⟩⟩
    next =>
      rw [List.head?_modifyHead, Option.map_eq_some_iff] at head
      obtain ⟨first, head, rfl⟩ := head
      obtain ⟨back, rfl, ends⟩ := ih head
      exact ⟨back, rfl, ends⟩

theorem mem_splitWhere_iff : part ∈ splitWhere separates cs ↔
    (splitWhere separates cs).head? = some part ∨ part ∈ (splitWhere separates cs).tail := by
  obtain ⟨first, others, parts⟩ := List.exists_cons_of_ne_nil
    (splitWhere_ne_nil separates cs)
  simp [parts, eq_comm]

-- Behind every comma that separates a text of its own begins.
theorem mem_tail_splitWhere_iff : part ∈ (splitWhere separates cs).tail ↔
    ∃ front rest, cs = front ++ ',' :: rest ∧ separates rest = true ∧
      (splitWhere separates rest).head? = some part := by
  induction cs with
  | nil => simp [splitWhere]
  | cons c cs ih =>
    by_cases separated : c = ',' ∧ separates cs = true
    next =>
      obtain ⟨rfl, separated⟩ := separated
      rw [splitWhere_separated separated, List.tail_cons, mem_splitWhere_iff, ih]
      constructor
      next =>
        rintro (head | ⟨front, rest, rfl, later, head⟩)
        next => exact ⟨[], cs, rfl, separated, head⟩
        next => exact ⟨',' :: front, rest, rfl, later, head⟩
      next =>
        rintro ⟨_ | ⟨c, front⟩, rest, same, later, head⟩ <;> cases same
        next => exact .inl head
        next => exact .inr ⟨front, rest, rfl, later, head⟩
    next =>
      rw [splitWhere, if_neg separated, List.tail_modifyHead, ih]
      constructor
      next =>
        rintro ⟨front, rest, rfl, later, head⟩
        exact ⟨c :: front, rest, rfl, later, head⟩
      next =>
        rintro ⟨_ | ⟨d, front⟩, rest, same, later, head⟩ <;> cases same
        next => exact absurd ⟨rfl, later⟩ separated
        next => exact ⟨front, rest, rfl, later, head⟩

/-- A part without a comma is a part of the text where it stands between two commas that separate,
or next to an end. -/
theorem mem_splitWhere_iff_of_notMem (absent : ',' ∉ part) : part ∈ splitWhere separates cs ↔
    ∃ front back, cs = front ++ part ++ back ∧
      (front = [] ∨ [','] <:+ front ∧ separates (part ++ back) = true) ∧
      EndsPart separates back := by
  rw [mem_splitWhere_iff, mem_tail_splitWhere_iff]
  constructor
  next =>
    rintro (head | ⟨front, rest, rfl, separated, head⟩)
    next =>
      obtain ⟨back, rfl, ends⟩ := exists_append_of_head?_splitWhere head
      exact ⟨[], back, rfl, .inl rfl, ends⟩
    next =>
      obtain ⟨back, rfl, ends⟩ := exists_append_of_head?_splitWhere head
      exact ⟨front ++ [','], back, by simp, .inr ⟨⟨front, rfl⟩, separated⟩, ends⟩
  next =>
    rintro ⟨front, back, rfl, rfl | ⟨⟨front, rfl⟩, separated⟩, ends⟩
    next => exact .inl (head?_splitWhere_append absent ends)
    next =>
      exact .inr ⟨front, part ++ back, by simp, separated, head?_splitWhere_append absent ends⟩

end

/-! ## The two readings -/

/-- Whether a name begins here, behind a comma. -/
def beginsName (rest : List Char) : Bool :=
  rest.head?.any (· ≠ ' ')

theorem splitOn_eq_splitWhere (cs : List Char) :
    Text.splitOn ',' cs = splitWhere (fun _ => true) cs := by
  induction cs with
  | nil => rfl
  | cons c rest ih =>
    by_cases comma : c = ','
    next => simp [Text.splitOn, splitWhere, comma, ih]
    next =>
      obtain ⟨first, others, parts⟩ := List.exists_cons_of_ne_nil
        (splitWhere_ne_nil (fun _ => true) rest)
      simp [Text.splitOn, splitWhere, comma, ih, parts]

theorem splitNames_eq_splitWhere (cs : List Char) :
    NameList.splitNames cs = splitWhere beginsName cs := by
  fun_induction NameList.splitNames cs with
  | case1 => rfl
  | case2 c => simp [splitWhere, beginsName]
  | case3 c d rest separated ih => simp_all [splitWhere, beginsName]
  | case4 c d rest joined none ih => exact absurd (ih.symm.trans none) (splitWhere_ne_nil _ _)
  | case5 c d rest joined first others parts ih =>
    rw [ih] at parts
    simp_all [splitWhere, beginsName]

theorem isBlank_of_trimChars_cons {c : Char} {cs : List Char}
    (trimmed : Text.trimChars (c :: cs) = c :: cs) : Text.isBlank c = false := by
  by_contra blank
  rw [Bool.not_eq_false] at blank
  have shorter : (Text.trimChars (c :: cs)).length ≤ cs.length := by
    have inner := (List.dropWhile_suffix (l := cs) Text.isBlank).length_le
    have outer := (List.dropWhile_suffix (l := (cs.dropWhile Text.isBlank).reverse)
      Text.isBlank).length_le
    simp only [Text.trimChars, Text.trimEnd, List.dropWhile_cons, blank, if_true,
      List.length_reverse] at *
    omega
  rw [trimmed, List.length_cons] at shorter
  omega

theorem beginsName_cons {c : Char} {cs rest : List Char}
    (trimmed : Text.trimChars (c :: cs) = c :: cs) : beginsName (c :: rest) = true := by
  have visible := isBlank_of_trimChars_cons trimmed
  simp only [beginsName, List.head?_cons, Option.any_some, decide_eq_true_eq]
  rintro rfl
  exact absurd visible (by decide)

theorem beginsName_of_tight {front rest : List Char} {c : Char}
    (tight : ∀ item ∈ Text.splitOn ',' (front ++ ',' :: c :: rest), Text.trimChars item = item) :
    beginsName (c :: rest) = true := by
  -- The item behind the comma begins with no space, for it has none at its ends.
  obtain ⟨next, others, parts⟩ := List.exists_cons_of_ne_nil
    (splitWhere_ne_nil (fun _ => true) (c :: rest))
  have head : (splitWhere (fun _ => true) (c :: rest)).head? = some next := by rw [parts]; rfl
  have item : next ∈ Text.splitOn ',' (front ++ ',' :: c :: rest) := by
    rw [splitOn_eq_splitWhere, mem_splitWhere_iff, mem_tail_splitWhere_iff]
    exact .inr ⟨front, c :: rest, rfl, rfl, head⟩
  obtain ⟨back, same, ends⟩ := exists_append_of_head?_splitWhere head
  cases next with
  | nil =>
    obtain ⟨later, comma⟩ : ∃ later, c :: rest = ',' :: later := by
      rcases ends with rfl | ⟨later, rfl, -⟩
      next => cases same
      next => exact ⟨later, same⟩
    cases comma
    rfl
  | cons d ds =>
    cases same
    exact beginsName_cons (tight _ item)

/-- The identity is written out between two commas or next to an end of the column, and no space
follows the comma behind it. -/
def StandsAlone (id column : String) : Prop :=
  ∃ front back, column.toList = front ++ id.toList ++ back ∧
    (front = [] ∨ [','] <:+ front) ∧ EndsPart beginsName back

theorem mem_siblingIds {id column : String} : id ∈ siblingIds (some column) ↔
    id ≠ "" ∧ ∃ part ∈ Text.splitOn ',' column.toList, Text.trimChars part = id.toList := by
  have same (part : List Char) :
      String.ofList (Text.trimChars part) = id ↔ Text.trimChars part = id.toList := by
    rw [← String.toList_inj, String.toList_ofList]
  simp [siblingIds, same, and_comm]

section

variable {id column : String}

theorem holds_iff_mem_splitNames : NameList.holds (some column) (some id) = true ↔
    id.toList ∈ NameList.splitNames column.toList := by
  simp only [NameList.holds, NameList.names, List.contains_iff_mem, List.mem_map]
  constructor
  next =>
    rintro ⟨name, member, rfl⟩
    rwa [String.toList_ofList]
  next => exact fun member => ⟨_, member, String.ofList_toList⟩

variable (nonempty : id ≠ "") (unbroken : ',' ∉ id.toList) (trimmed : Text.trim id = id)

include trimmed in
theorem trimChars_toList : Text.trimChars id.toList = id.toList := by
  rw [← String.toList_ofList (l := Text.trimChars id.toList)]
  exact congrArg String.toList trimmed

include nonempty trimmed in
theorem beginsName_append (back : List Char) : beginsName (id.toList ++ back) = true := by
  have chars := trimChars_toList trimmed
  cases text : id.toList with
  | nil => exact absurd (String.toList_eq_nil_iff.1 text) nonempty
  | cons c cs => exact beginsName_cons (text ▸ chars)

include unbroken in
theorem standsAlone_of_mem_siblingIds
    (tight : ∀ item ∈ Text.splitOn ',' column.toList, Text.trimChars item = item)
    (last : ¬ id.toList ++ [','] <:+ column.toList) (sibling : id ∈ siblingIds (some column)) :
    StandsAlone id column := by
  obtain ⟨-, part, item, same⟩ := mem_siblingIds.1 sibling
  obtain rfl : part = id.toList := (tight part item).symm.trans same
  rw [splitOn_eq_splitWhere, mem_splitWhere_iff_of_notMem unbroken] at item
  obtain ⟨front, back, text, begins, ends⟩ := item
  refine ⟨front, back, text, begins.imp_right And.left, ends.imp_right ?_⟩
  rintro ⟨rest, rfl, -⟩
  refine ⟨rest, rfl, ?_⟩
  cases rest with
  | nil => exact absurd ⟨front, by simp [text]⟩ last
  | cons c rest =>
    have text : column.toList = (front ++ id.toList) ++ ',' :: c :: rest := by simp [text]
    exact beginsName_of_tight (text ▸ tight)

include nonempty unbroken trimmed

theorem holds_iff_standsAlone :
    NameList.holds (some column) (some id) = true ↔ StandsAlone id column := by
  rw [holds_iff_mem_splitNames, splitNames_eq_splitWhere, mem_splitWhere_iff_of_notMem unbroken]
  simp only [beginsName_append nonempty trimmed, and_true, StandsAlone]

theorem mem_siblingIds_of_standsAlone (alone : StandsAlone id column) :
    id ∈ siblingIds (some column) := by
  obtain ⟨front, back, text, begins, ends⟩ := alone
  have item : id.toList ∈ Text.splitOn ',' column.toList := by
    rw [splitOn_eq_splitWhere, mem_splitWhere_iff_of_notMem unbroken]
    refine ⟨front, back, text, by simpa using begins, ?_⟩
    exact ends.imp_right fun ⟨rest, comma, _⟩ => ⟨rest, comma, rfl⟩
  exact mem_siblingIds.2 ⟨nonempty, _, item, trimChars_toList trimmed⟩

/-- Only siblings are found among the names of a column. Of the siblings those are found that
stand alone in it, which all do if no item has white space at its ends. -/
theorem holds_iff_mem_siblings (uuid : String) (side : Option Side) (column : String) :
    let siblings := (FaceGroup.ofColumn uuid side (some column)).siblings
    let found := NameList.holds (some column) (some id)
    (found = true → id ∈ siblings) ∧
    (¬ id.toList ++ [','] <:+ column.toList →
      (found = true ↔ id ∈ siblings ∧ StandsAlone id column) ∧
      ((∀ item ∈ Text.splitOn ',' column.toList, Text.trimChars item = item) →
        (found = true ↔ id ∈ siblings))) := by
  intro siblings found
  have alone : found = true ↔ StandsAlone id column :=
    holds_iff_standsAlone nonempty unbroken trimmed
  have sibling : StandsAlone id column → id ∈ siblings :=
    mem_siblingIds_of_standsAlone nonempty unbroken trimmed
  rw [alone]
  refine ⟨sibling, fun last => ⟨⟨fun stands => ⟨sibling stands, stands⟩, And.right⟩, ?_⟩⟩
  intro tight
  exact ⟨sibling, standsAlone_of_mem_siblingIds unbroken tight last⟩

end

theorem holds_iff_mem_siblings_thirdFace :
    "c" ≠ "" ∧ ',' ∉ "c".toList ∧ Text.trim "c" = "c" ∧
    ¬ "c".toList ++ [','] <:+ "a,b b,c,d".toList ∧
    (∀ item ∈ Text.splitOn ',' "a,b b,c,d".toList, Text.trimChars item = item) ∧
    (NameList.holds (some "a,b b,c,d") (some "c") = true ↔
      "c" ∈ (FaceGroup.ofColumn "e" (some .a) (some "a,b b,c,d")).siblings) := by
  have nonempty : "c" ≠ "" := by decide
  have unbroken : ',' ∉ "c".toList := by decide
  have trimmed : Text.trim "c" = "c" := by decide
  have last : ¬ "c".toList ++ [','] <:+ "a,b b,c,d".toList := by decide
  have tight : ∀ item ∈ Text.splitOn ',' "a,b b,c,d".toList, Text.trimChars item = item := by decide
  obtain ⟨-, rest⟩ := holds_iff_mem_siblings nonempty unbroken trimmed "e" (some .a) "a,b b,c,d"
  exact ⟨nonempty, unbroken, trimmed, last, tight, (rest last).2 tight⟩

-- The space behind the comma makes one name of the two identities.
theorem holds_ne_mem_siblings : ¬ ∀ (id uuid : String) (side : Option Side) (column : String),
    id ≠ "" → ',' ∉ id.toList → Text.trim id = id →
    (NameList.holds (some column) (some id) = true ↔
      id ∈ (FaceGroup.ofColumn uuid side (some column)).siblings) := by
  intro agree
  have found := (agree "b2" "a1" (some .a) "b2, c3" (by decide) (by decide) (by decide)).2
    (by decide)
  revert found
  decide

end CardCatalog
