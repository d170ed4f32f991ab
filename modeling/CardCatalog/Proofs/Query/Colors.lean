import CardCatalog.Proofs.NameList
import CardCatalog.Proofs.Sql.SetComparison
import CardCatalog.Proofs.Text.Folding

/-!
Comparisons of colors as comparisons of finite sets. Main statement: whichever way the columns and
the value are spelled, the condition of a color term is known, and holds where the set of a
column's elements stands to the set of the value's letters as the operator says.
-/

set_option autoImplicit false

namespace CardCatalog

namespace Text

theorem splitOn_map {separator : Char} {f : Char → Char}
    (same : ∀ c, f c = separator ↔ c = separator) (cs : List Char) :
    splitOn separator (cs.map f) = (splitOn separator cs).map (List.map f) := by
  induction cs with
  | nil => rfl
  | cons c rest ih =>
    rw [List.map_cons, splitOn, splitOn, ih]
    by_cases separates : c = separator
    next => simp [separates, (same separator).2]
    next =>
      rw [if_neg ((same c).not.2 separates), if_neg separates]
      cases splitOn separator rest <;> rfl

end Text

namespace NameList

theorem tags_fold (list : String) : tags (Text.fold list) = (tags list).map Text.fold := by
  have comma (c : Char) : c.toLower = ',' ↔ c = ',' := Text.toLower_eq_iff (by decide) c
  unfold tags
  by_cases empty : list = ""
  next => simp [empty]
  next =>
    rw [if_neg (Text.fold_eq_empty.not.2 empty), if_neg empty, Text.toList_fold,
      Text.splitOn_map comma]
    simp [Text.fold_ofList]

theorem tags_intercalate {parts : List String} (given : parts ≠ [])
    (plain : ∀ part ∈ parts, part ≠ "" ∧ ',' ∉ part.toList) :
    tags (",".intercalate parts) = parts := by
  have columns := Text.splitOn_toList_intercalate given fun part among => (plain part among).2
  have nonempty : ",".intercalate parts ≠ "" := by
    intro empty
    rw [empty] at columns
    have only : [] ∈ parts.map String.toList := columns ▸ List.mem_singleton_self []
    obtain ⟨part, among, none⟩ := List.mem_map.1 only
    exact (plain part among).1 (String.toList_eq_nil_iff.1 none)
  rw [tags, if_neg nonempty, columns]
  simp

theorem nodup_eraseDups (list : List String) : list.eraseDups.Nodup := by
  induction size : list.length using Nat.strong_induction_on generalizing list with
  | _ size ih =>
    cases list with
    | nil => exact List.nodup_nil
    | cons tag rest =>
      have shorter := List.length_filter_le (fun other => !other == tag) rest
      rw [List.length_cons] at size
      rw [List.eraseDups_cons, List.nodup_cons]
      constructor
      next => simp [List.mem_eraseDups]
      next => exact ih _ (by omega) _ rfl

/-- The elements of a stored set, made small. A missing set is empty. -/
def lowTags (column : Option String) : Finset String :=
  ((tags (column.getD "")).map Text.fold).toFinset

/-- No two elements differ in the case of ASCII letters only. -/
def CaseApart (column : Option String) : Prop :=
  ∀ a ∈ tags (column.getD ""), ∀ b ∈ tags (column.getD ""), Text.fold a = Text.fold b → a = b

theorem mem_lowTags {column : Option String} {tag : String} :
    tag ∈ lowTags column ↔ ∃ element ∈ tags (column.getD ""), Text.fold element = tag := by
  rw [lowTags, List.mem_toFinset, List.mem_map]

theorem tags_map_fold (column : Option String) :
    tags ((column.map Text.fold).getD "") = (tags (column.getD "")).map Text.fold := by
  rw [Text.getD_map_fold, tags_fold]

theorem lowTags_map_fold (column : Option String) :
    lowTags (column.map Text.fold) = lowTags column := by
  simp [lowTags, tags_map_fold, Function.comp_def, Text.fold_fold]

theorem caseApart_map_fold (column : Option String) : CaseApart (column.map Text.fold) := by
  intro a memberA b memberB same
  rw [tags_map_fold] at memberA memberB
  obtain ⟨a, -, rfl⟩ := List.mem_map.1 memberA
  obtain ⟨b, -, rfl⟩ := List.mem_map.1 memberB
  simpa only [Text.fold_fold] using same

theorem tagCount_eq_card {column : Option String} (apart : CaseApart column) :
    tagCount column = (lowTags column).card := by
  have counted : tagCount column = (tags (column.getD "")).eraseDups.length := by
    cases column <;> rfl
  have elements : (tags (column.getD "")).eraseDups.toFinset = (tags (column.getD "")).toFinset := by
    ext tag
    simp
  have low : lowTags column = (tags (column.getD "")).toFinset.image Text.fold := by
    ext tag
    simp [mem_lowTags]
  rw [counted, low, Finset.card_image_of_injOn, ← elements,
    List.toFinset_card_of_nodup (nodup_eraseDups _)]
  intro a memberA b memberB same
  exact apart a (List.mem_toFinset.1 memberA) b (List.mem_toFinset.1 memberB) same

theorem includes_map_fold (a b : Option String) :
    includes (a.map Text.fold) (b.map Text.fold) = true ↔ lowTags b ⊆ lowTags a := by
  rw [includes, tags_map_fold, tags_map_fold]
  simp [Finset.subset_iff, mem_lowTags]

end NameList

namespace Query

open NameList

/-- How a comparison relates two finite sets. -/
def Comparison.Relates (A B : Finset String) : Comparison → Prop
  | equal => A = B
  | differs => A ≠ B
  | greater => B ⊂ A
  | less => A ⊂ B
  | atLeast => B ⊆ A
  | atMost => A ⊆ B

theorem ssubset_iff_card {A B : Finset String} : A ⊂ B ↔ A.card < B.card ∧ A ⊆ B := by
  constructor
  next => exact fun less => ⟨Finset.card_lt_card less, less.subset⟩
  next =>
    rintro ⟨fewer, included⟩
    refine included.ssubset_of_ne ?_
    rintro rfl
    exact Nat.lt_irrefl _ fewer

theorem compareColors_iff {column : Option String} (apart : CaseApart column) (value : String)
    (c : Comparison) : compareColors c column value = true ↔
      c.Relates (lowTags column) (lowTags (some value)) := by
  have size := tagCount_eq_card apart
  have sizeValue := tagCount_eq_card (caseApart_map_fold (some value))
  have above := includes_map_fold column (some value)
  have below := includes_map_fold (some value) column
  rw [lowTags_map_fold] at sizeValue
  rw [Option.map_some] at sizeValue above below
  have equal : compareColors .equal column value = true ↔
      lowTags column = lowTags (some value) := by
    simp only [compareColors, compareSets, Bool.and_eq_true, above, below, size, sizeValue,
      Comparison.holds, beq_iff_eq, Nat.compare_eq_eq]
    constructor
    next =>
      rintro ⟨⟨-, included⟩, includes⟩
      exact included.antisymm includes
    next => exact fun same => ⟨⟨congrArg _ same, same.subset⟩, same.superset⟩
  cases c with
  | equal => exact equal
  | differs =>
    have negated : compareColors .differs column value = !compareColors .equal column value := rfl
    rw [negated, Bool.not_eq_true', ← Bool.not_eq_true, equal, Comparison.Relates]
  | greater | less =>
    simp only [compareColors, compareSets, Comparison.Relates, Bool.and_eq_true, above, below,
      size, sizeValue, Comparison.holds, beq_iff_eq, Nat.compare_eq_gt, Nat.compare_eq_lt,
      ssubset_iff_card]
  | atLeast | atMost =>
    simp only [compareColors, compareSets, Comparison.Relates, Bool.and_eq_true, above, below,
      size, sizeValue, Comparison.holds, bne_iff_ne, ne_eq, Nat.compare_eq_gt, Nat.compare_eq_lt,
      Nat.not_lt]
    exact and_iff_right_of_imp Finset.card_le_card

/-- The letters of a value, made small. -/
def lowLetters (value : String) : Finset String :=
  ((value.toList.filter Char.isAlpha).map fun c => String.singleton c.toLower).toFinset

theorem exists_readColors? {value : String} (letter : ∃ c ∈ value.toList, c.isAlpha = true) :
    ∃ list, readColors? value = some list ∧ lowTags (some list) = lowLetters value := by
  have given : value.toList.filter Char.isAlpha ≠ [] := by
    obtain ⟨c, member, alpha⟩ := letter
    exact List.ne_nil_of_mem (List.mem_filter.2 ⟨member, alpha⟩)
  have comma (c : Char) (member : c ∈ value.toList.filter Char.isAlpha) : c.toLower ≠ ',' := by
    intro same
    rw [(Text.toLower_eq_iff (by decide) c).1 same] at member
    exact absurd (List.mem_filter.1 member).2 (by decide)
  unfold readColors? lowLetters
  generalize value.toList.filter Char.isAlpha = letters at *
  refine ⟨",".intercalate (letters.map fun c => String.singleton c.toLower), ?_, ?_⟩
  next =>
    cases letters with
    | nil => exact absurd rfl given
    | cons c rest => rfl
  next =>
    have plain : ∀ part ∈ letters.map fun c => String.singleton c.toLower,
        part ≠ "" ∧ ',' ∉ part.toList := by
      intro part member
      obtain ⟨c, among, rfl⟩ := List.mem_map.1 member
      simpa using (comma c among).symm
    rw [lowTags, Option.getD_some, tags_intercalate (by simpa using given) plain]
    simp [Text.fold_singleton, Function.comp_def]

/-- How an operator relates the set of a column's elements and that of a value's letters. -/
def Operator.Relates (A B : Finset String) : Operator → Prop
  | colon => B ⊆ A
  | compare c => c.Relates A B

theorem Operator.relates_comparison (A B : Finset String) (op : Operator) :
    (op.comparison .colors).Relates A B ↔ op.Relates A B := by
  cases op <;> exact Iff.rfl

theorem ofKeyword_colors {value list : String} (read : readColors? value = some list)
    (rate : Float) (op : Operator) : Term.ofKeyword rate "colors" op false value =
      .ok (.colors (op.comparison .colors) list) := by
  have found : Keyword.ofWord? "colors" = some .colors := by decide
  simp [Term.ofKeyword, found, Keyword.acceptsComparison, Keyword.term?, read]

theorem colors_comparison (rate : Float) (op : Operator) {value : String}
    (letter : ∃ c ∈ value.toList, c.isAlpha = true) {column : Option String}
    (apart : CaseApart column) :
    ∃ list, readColors? value = some list ∧
      Term.ofKeyword rate "colors" op false value =
        .ok (.colors (op.comparison .colors) list) ∧
      let condition := Sql.Condition.ofSets colorFunctions (op.comparison .colors)
      (∀ name, condition.sql name =
        setComparisonSql colorFunctions name (op.comparison .colors)) ∧
      (∀ (s : Store) (j : JoinedRow), (Term.colors (op.comparison .colors) list).onRow s j =
        condition.truth (s.wholeColors j.card) (some list)) ∧
      condition.truth column (some list) ≠ .unknown ∧
      (condition.truth column (some list) = .yes ↔
        op.Relates (lowTags column) (lowLetters value)) := by
  obtain ⟨list, read, low⟩ := exists_readColors? letter
  refine ⟨list, read, ofKeyword_colors read rate op, ?_, ?_, ?_, ?_⟩
  next => exact fun name => Sql.Condition.sql_ofSets colorFunctions name _
  next => exact fun s j => (Sql.Condition.truth_ofColors _ (s.wholeColors j.card) list).symm
  next =>
    rw [Sql.Condition.truth_ofColors]
    exact Truth.ofBool_ne_unknown _
  next =>
    rw [Sql.Condition.truth_ofColors, Truth.ofBool_eq_yes, compareColors_iff apart, low,
      Operator.relates_comparison]

theorem colors_comparison_threeColors :
    (∃ c ∈ "Ub".toList, c.isAlpha = true) ∧ CaseApart (some "B,G,U") ∧
    ∃ list, readColors? "Ub" = some list ∧
      (Sql.Condition.ofSets colorFunctions .greater).truth (some "B,G,U") (some list) = .yes := by
  have letter : ∃ c ∈ "Ub".toList, c.isAlpha = true := ⟨'U', by decide, rfl⟩
  have apart : CaseApart (some "B,G,U") := by
    unfold CaseApart
    decide
  have less : lowLetters "Ub" ⊂ lowTags (some "B,G,U") := by decide
  obtain ⟨list, read, -, -, -, -, relates⟩ :=
    colors_comparison 1 (.compare .greater) letter apart
  exact ⟨letter, apart, list, read, relates.2 less⟩

end Query

end CardCatalog
