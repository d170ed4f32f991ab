import Mathlib
import CardCatalog.Proofs.Text.Folding
import CardCatalog.Store.Condition
import CardCatalog.Store.Sample

/-!
Searching a text with a pattern. Main statement: a value that is looked for in a name or a text is
a pattern itself, which some run of the text must fit; without wildcards it is a part of the text
up to case.
-/

set_option autoImplicit false

namespace CardCatalog

namespace Text

/-- The texts that a pattern stands for. -/
inductive Fits : List Char → List Char → Prop
  | nil : Fits [] []
  | run {pattern text : List Char} (run : List Char) (rest : Fits pattern text) :
      Fits ('%' :: pattern) (run ++ text)
  | one {pattern text : List Char} (c : Char) (rest : Fits pattern text) :
      Fits ('_' :: pattern) (c :: text)
  | same {c : Char} {pattern text : List Char} (plain : c ≠ '%') (rest : Fits pattern text) :
      Fits (c :: pattern) (c :: text)

section

variable {pattern text : List Char} {p c : Char}

theorem fits_nil_iff : Fits [] text ↔ text = [] := by
  constructor
  next =>
    intro fits
    cases fits
    rfl
  next =>
    rintro rfl
    exact .nil

theorem fits_run_iff :
    Fits ('%' :: pattern) text ↔ ∃ run rest, text = run ++ rest ∧ Fits pattern rest := by
  constructor
  next =>
    intro fits
    cases fits with
    | run run rest => exact ⟨run, _, rfl, rest⟩
    | same plain rest => exact absurd rfl plain
  next =>
    rintro ⟨run, rest, rfl, fits⟩
    exact .run run fits

theorem fits_run_run : Fits ('%' :: '%' :: pattern) text ↔ Fits ('%' :: pattern) text := by
  constructor
  next =>
    intro fits
    obtain ⟨first, text, rfl, inner⟩ := fits_run_iff.1 fits
    obtain ⟨second, rest, rfl, innermost⟩ := fits_run_iff.1 inner
    rw [← List.append_assoc]
    exact .run _ innermost
  next => exact fun fits => .run [] fits

theorem fits_run_nil : Fits ('%' :: pattern) [] ↔ Fits pattern [] := by
  simp [fits_run_iff]

theorem fits_run_cons :
    Fits ('%' :: pattern) (c :: text) ↔ Fits pattern (c :: text) ∨ Fits ('%' :: pattern) text := by
  rw [fits_run_iff, fits_run_iff]
  constructor
  next =>
    rintro ⟨_ | ⟨d, run⟩, rest, same, fits⟩
    next => exact .inl (same ▸ fits)
    next =>
      cases same
      exact .inr ⟨run, rest, rfl, fits⟩
  next =>
    rintro (fits | ⟨run, rest, rfl, fits⟩)
    next => exact ⟨[], _, rfl, fits⟩
    next => exact ⟨c :: run, rest, rfl, fits⟩

variable (plain : p ≠ '%')

include plain

theorem not_fits_nil : ¬ Fits (p :: pattern) [] := by
  intro fits
  generalize empty : ([] : List Char) = text at fits
  cases fits <;> simp_all

theorem fits_cons_iff :
    Fits (p :: pattern) (c :: text) ↔ (p = '_' ∨ p = c) ∧ Fits pattern text := by
  constructor
  next =>
    intro fits
    generalize whole : c :: text = cs at fits
    cases fits with
    | run => exact absurd rfl plain
    | one d rest =>
      cases whole
      exact ⟨.inl rfl, rest⟩
    | same _ rest =>
      cases whole
      exact ⟨.inr rfl, rest⟩
  next =>
    rintro ⟨rfl | rfl, fits⟩
    next => exact .one c fits
    next => exact .same plain fits

end

theorem fits_iff (pattern text : List Char) : fits pattern text = true ↔ Fits pattern text := by
  fun_induction fits pattern text with
  | case1 text => rw [decide_eq_true_iff, fits_nil_iff]
  | case2 pattern text ih => rw [ih, fits_run_run]
  | case3 pattern text _ ih later =>
    cases text with
    | nil => rw [Bool.or_false, ih, fits_run_nil]
    | cons c rest =>
      have later : fits ('%' :: pattern) rest = true ↔ Fits ('%' :: pattern) rest := later
      rw [Bool.or_eq_true, ih, later, fits_run_cons]
  | case4 p pattern _ plain => exact iff_of_false Bool.false_ne_true (not_fits_nil plain)
  | case5 p pattern _ plain c rest ih =>
    rw [Bool.and_eq_true, Bool.or_eq_true, decide_eq_true_iff, decide_eq_true_iff, ih,
      fits_cons_iff plain]

theorem Fits.append {front back first second : List Char} (fits : Fits front first)
    (rest : Fits back second) : Fits (front ++ back) (first ++ second) := by
  induction fits with
  | nil => exact rest
  | run run _ ih =>
    rw [List.append_assoc]
    exact .run run ih
  | one c _ ih => exact .one c ih
  | same plain _ ih => exact .same plain ih

theorem fits_append_iff {front back text : List Char} : Fits (front ++ back) text ↔
    ∃ first second, text = first ++ second ∧ Fits front first ∧ Fits back second := by
  constructor
  next =>
    intro fits
    induction front generalizing text with
    | nil => exact ⟨[], text, rfl, .nil, fits⟩
    | cons p front ih =>
      by_cases run : p = '%'
      next =>
        subst run
        obtain ⟨run, rest, rfl, inner⟩ := fits_run_iff.1 fits
        obtain ⟨first, second, rfl, fitsFront, fitsBack⟩ := ih inner
        exact ⟨run ++ first, second, (List.append_assoc _ _ _).symm, .run run fitsFront, fitsBack⟩
      next =>
        cases text with
        | nil => exact absurd fits (not_fits_nil run)
        | cons c text =>
          obtain ⟨same, inner⟩ := (fits_cons_iff run).1 fits
          obtain ⟨first, second, rfl, fitsFront, fitsBack⟩ := ih inner
          exact ⟨c :: first, second, rfl, (fits_cons_iff run).2 ⟨same, fitsFront⟩, fitsBack⟩
  next =>
    rintro ⟨first, second, rfl, fits, rest⟩
    exact fits.append rest

theorem fits_run (text : List Char) : Fits ['%'] text :=
  fits_run_iff.2 ⟨text, [], by simp, .nil⟩

theorem fits_around_iff {pattern text : List Char} :
    Fits ('%' :: (pattern ++ ['%'])) text ↔ ∃ run, run <:+: text ∧ Fits pattern run := by
  rw [fits_run_iff]
  constructor
  next =>
    rintro ⟨before, rest, rfl, fits⟩
    obtain ⟨run, after, rfl, fits, -⟩ := fits_append_iff.1 fits
    exact ⟨run, ⟨before, after, by simp⟩, fits⟩
  next =>
    rintro ⟨run, ⟨before, after, rfl⟩, fits⟩
    exact ⟨before, run ++ after, by simp, fits.append (fits_run after)⟩

theorem fits_at_end_iff {pattern text : List Char} :
    Fits ('%' :: pattern) text ↔ ∃ run, run <:+ text ∧ Fits pattern run := by
  rw [fits_run_iff]
  constructor
  next =>
    rintro ⟨before, run, rfl, fits⟩
    exact ⟨run, ⟨before, rfl⟩, fits⟩
  next =>
    rintro ⟨run, ⟨before, rfl⟩, fits⟩
    exact ⟨before, run, rfl, fits⟩

theorem fits_literal_iff {pattern text : List Char}
    (literal : ∀ p ∈ pattern, p ≠ '%' ∧ p ≠ '_') : Fits pattern text ↔ text = pattern := by
  induction pattern generalizing text with
  | nil => exact fits_nil_iff
  | cons p pattern ih =>
    obtain ⟨⟨run, one⟩, rest⟩ := List.forall_mem_cons.1 literal
    cases text with
    | nil => simpa using not_fits_nil run
    | cons c text => simp [fits_cons_iff run, one, ih rest, eq_comm]

/-! ## A value between two wildcards -/

/-- What of a text a search sees: its characters before the first zero, made small. -/
def searched (s : String) : List Char :=
  untilZero (fold s).toList

/-- Some run of the text fits the value. A zero character cuts off what follows it in the value,
and then the run must end the text. -/
def Finds (value text : String) : Prop :=
  ∃ run, (if '\x00' ∈ value.toList then run <:+ searched text else run <:+: searched text) ∧
    Fits (searched value) run

/-- The value is a part of the text, up to the case of ASCII letters. -/
def Occurs (value text : String) : Prop :=
  (fold value).toList <:+: (fold text).toList

/-- None of its characters means anything but itself in a pattern. -/
def Literal (value : String) : Prop :=
  ∀ c ∈ value.toList, c ≠ '%' ∧ c ≠ '_' ∧ c ≠ '\x00'

instance (value : String) : Decidable (Literal value) :=
  List.decidableBAll (fun c => c ≠ '%' ∧ c ≠ '_' ∧ c ≠ '\x00') value.toList

section

variable {value text : String}

theorem mem_fold_iff {d : Char} (other : ∀ i < 26, d ≠ Char.ofNat (65 + i) ∧
    d ≠ Char.ofNat (97 + i)) : d ∈ (fold text).toList ↔ d ∈ text.toList := by
  rw [toList_fold, List.mem_map]
  constructor
  next =>
    rintro ⟨c, member, low⟩
    exact (toLower_eq_iff other c).1 low ▸ member
  next => exact fun member => ⟨d, member, (toLower_eq_iff other d).2 rfl⟩

theorem untilZero_append (cs ds : List Char) : untilZero (cs ++ ds) =
    if '\x00' ∈ cs then untilZero cs else cs ++ untilZero ds := by
  induction cs with
  | nil => rfl
  | cons c rest ih =>
    unfold untilZero at *
    by_cases zero : c = '\x00'
    next => simp [zero]
    next => simp [zero, Ne.symm zero, ih, apply_ite (c :: ·)]

theorem searched_eq (whole : '\x00' ∉ text.toList) : searched text = (fold text).toList := by
  have absent : '\x00' ∉ (fold text).toList := (mem_fold_iff (by decide)).not.2 whole
  have all := untilZero_append (fold text).toList []
  rw [List.append_nil, if_neg absent] at all
  exact all.trans (List.append_nil _)

theorem searched_anywhere : searched (Query.anywhere value) =
    '%' :: if '\x00' ∈ value.toList then searched value else searched value ++ ['%'] := by
  have low : (fold (Query.anywhere value)).toList = ['%'] ++ ((fold value).toList ++ ['%']) := by
    simp [Query.anywhere]
  have zero : '\x00' ∈ (fold value).toList ↔ '\x00' ∈ value.toList := mem_fold_iff (by decide)
  have first : untilZero ['%'] = ['%'] := by decide
  rw [searched, low, untilZero_append, if_neg (by decide), untilZero_append, first,
    List.singleton_append]
  by_cases cut : '\x00' ∈ value.toList
  next => rw [if_pos (zero.2 cut), if_pos cut, searched]
  next => rw [if_neg (zero.not.2 cut), if_neg cut, searched_eq cut]

theorem like_anywhere_iff :
    like (fold text) (fold (Query.anywhere value)) = true ↔ Finds value text := by
  have asked : like (fold text) (fold (Query.anywhere value)) = true ↔
      Fits (searched (Query.anywhere value)) (searched text) := fits_iff _ _
  rw [asked, searched_anywhere, Finds]
  by_cases cut : '\x00' ∈ value.toList
  next => simp only [cut, if_true, fits_at_end_iff]
  next => simp only [cut, if_false, fits_around_iff]

theorem finds_iff_occurs (literal : Literal value) (whole : '\x00' ∉ text.toList) :
    Finds value text ↔ Occurs value text := by
  have uncut : '\x00' ∉ value.toList := fun zero => (literal _ zero).2.2 rfl
  have plain (p : Char) (member : p ∈ (fold value).toList) : p ≠ '%' ∧ p ≠ '_' := by
    constructor
    next =>
      rintro rfl
      exact (literal _ ((mem_fold_iff (by decide)).1 member)).1 rfl
    next =>
      rintro rfl
      exact (literal _ ((mem_fold_iff (by decide)).1 member)).2.1 rfl
  simp only [Finds, uncut, if_false, searched_eq uncut, searched_eq whole, fits_literal_iff plain,
    exists_eq_right, Occurs]

end

end Text

namespace Query

theorem fuzzy_iff (value : String) (s : Store) (j : JoinedRow) :
    ((Term.name value false).onRow s j = .yes ↔ Text.Finds value j.card.displayName) ∧
    ((Term.text value).onRow s j = .yes ↔
      ∃ text, j.card.text = some text ∧ Text.Finds value text) ∧
    (Text.Literal value → ∀ text : String, '\x00' ∉ text.toList →
      (Text.Finds value text ↔ Text.Occurs value text)) := by
  refine ⟨?_, ?_, fun literal text whole => Text.finds_iff_occurs literal whole⟩
  next =>
    rw [← Text.like_anywhere_iff, Term.onRow, Truth.ofBool_eq_yes, matchesName,
      if_neg Bool.false_ne_true]
  next =>
    rw [Term.onRow]
    cases j.card.text with
    | none => simp [Truth.ofOption]
    | some text =>
      simp only [Option.some.injEq, exists_eq_left', ← Text.like_anywhere_iff, Truth.ofOption,
        Truth.ofBool_eq_yes, matchesText]

def serraAngelRow : JoinedRow where
  card := Sample.serraAngel "angel-m15" "M15"
  set := ⟨"M15", "core", none⟩
  legality := none
  price := none

theorem fuzzy_iff_angel : Text.Literal "ANGEL" ∧ '\x00' ∉ "Serra Angel".toList ∧
    Text.Occurs "ANGEL" "Serra Angel" ∧
    (Term.name "ANGEL" false).onRow Store.empty serraAngelRow = .yes := by
  have literal : Text.Literal "ANGEL" := by decide
  have whole : '\x00' ∉ "Serra Angel".toList := by decide
  have occurs : Text.Occurs "ANGEL" "Serra Angel" := ⟨"serra ".toList, [], by decide⟩
  have shown : serraAngelRow.card.displayName = "Serra Angel" := rfl
  obtain ⟨name, -, literally⟩ := fuzzy_iff "ANGEL" Store.empty serraAngelRow
  rw [shown] at name
  exact ⟨literal, whole, occurs, name.2 ((literally literal _ whole).2 occurs)⟩

-- Five underscores are the name of a card, and as a pattern any five characters.
theorem fuzzy_ne_occurs : ¬ ∀ (value : String) (s : Store) (j : JoinedRow),
    ((Term.name value false).onRow s j = .yes ↔ Text.Occurs value j.card.displayName) ∧
    ((Term.text value).onRow s j = .yes ↔
      ∃ text, j.card.text = some text ∧ Text.Occurs value text) := by
  intro literal
  have listed : (Term.name "_____" false).onRow Store.empty serraAngelRow = .yes := by cbv
  have occurs := (literal "_____" Store.empty serraAngelRow).1.1 listed
  have member : '_' ∈ (Text.fold "Serra Angel").toList := occurs.subset (by decide)
  revert member
  decide

end Query

end CardCatalog
