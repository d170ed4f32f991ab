import Mathlib
import CardCatalog.Text.Blank

/-!
The words of a text. Main statements: white space separates words, words have none of it, and
together they are the text without its white space.
-/

set_option autoImplicit false

namespace CardCatalog.Text

def Solid (cs : List Char) : Prop :=
  ∀ c ∈ cs, isBlank c = false

instance (cs : List Char) : Decidable (Solid cs) :=
  List.decidableBAll (fun c => isBlank c = false) cs

structure IsWord (cs : List Char) : Prop where
  nonempty : cs ≠ []
  solid : Solid cs

@[simp]
theorem solid_nil : Solid [] := by
  simp [Solid]

@[simp]
theorem solid_cons {c : Char} {cs : List Char} :
    Solid (c :: cs) ↔ isBlank c = false ∧ Solid cs := by
  simp [Solid]

@[simp]
theorem solid_append {front back : List Char} :
    Solid (front ++ back) ↔ Solid front ∧ Solid back := by
  simp [Solid, or_imp, forall_and]

/-- The text without its white space. -/
def visible (cs : List Char) : List Char :=
  cs.filter fun c => !isBlank c

@[simp]
theorem visible_nil : visible [] = [] :=
  rfl

@[simp]
theorem visible_append (front back : List Char) :
    visible (front ++ back) = visible front ++ visible back :=
  List.filter_append ..

theorem visible_cons_blank {c : Char} (blank : isBlank c = true) (cs : List Char) :
    visible (c :: cs) = visible cs := by
  simp [visible, blank]

theorem Solid.visible_eq {cs : List Char} (solid : Solid cs) : visible cs = cs := by
  apply List.filter_eq_self.2
  intro c member
  simp [solid c member]

theorem solid_flatten {words : List (List Char)} (solid : ∀ word ∈ words, Solid word) :
    Solid words.flatten := by
  intro c member
  obtain ⟨word, inside, member⟩ := List.mem_flatten.1 member
  exact solid word inside c member

/-! ## Cutting at white space -/

theorem words_eq_filter_splitOnP (cs : List Char) :
    words cs = (cs.splitOnP isBlank).filter (· ≠ []) := by
  rw [words]
  congr 1
  induction cs with
  | nil => rfl
  | cons c cs ih =>
    rw [List.foldr_cons, ih, List.splitOnP_cons_eq_if_modifyHead]
    obtain ⟨word, others, split⟩ := List.exists_cons_of_ne_nil (List.splitOnP_ne_nil isBlank cs)
    rw [split]
    rfl

@[simp]
theorem words_nil : words [] = [] := by
  simp [words_eq_filter_splitOnP]

theorem words_append_cons {c : Char} (blank : isBlank c = true) (front rest : List Char) :
    words (front ++ c :: rest) = words front ++ words rest := by
  simp only [words_eq_filter_splitOnP, List.splitOnP_append_cons front rest blank,
    List.filter_append]

theorem words_blank_append {gap : List Char} (blank : ∀ c ∈ gap, isBlank c = true)
    (back : List Char) : words (gap ++ back) = words back := by
  induction gap with
  | nil => rfl
  | cons c gap ih =>
    have first := words_append_cons (blank c List.mem_cons_self) [] (gap ++ back)
    rw [List.nil_append, words_nil, List.nil_append] at first
    rw [List.cons_append, first]
    apply ih
    intro d member
    exact blank d (List.mem_cons_of_mem c member)

theorem words_append_append {gap : List Char} (nonempty : gap ≠ [])
    (blank : ∀ c ∈ gap, isBlank c = true) (front back : List Char) :
    words (front ++ gap ++ back) = words front ++ words back := by
  obtain ⟨c, others, rfl⟩ := List.exists_cons_of_ne_nil nonempty
  rw [List.append_assoc, List.cons_append, words_append_cons (blank c List.mem_cons_self),
    words_blank_append fun d member => blank d (List.mem_cons_of_mem c member)]

theorem Solid.words_eq {cs : List Char} (solid : Solid cs) : words cs = [cs].filter (· ≠ []) := by
  rw [words_eq_filter_splitOnP, List.splitOnP_eq_singleton solid]

theorem IsWord.words_eq {word : List Char} (isWord : IsWord word) : words word = [word] := by
  rw [isWord.solid.words_eq]
  simp [isWord.nonempty]

theorem words_append_blank {gap : List Char} (blank : ∀ c ∈ gap, isBlank c = true)
    (front : List Char) : words (front ++ gap) = words front := by
  by_cases none : gap = []
  next => rw [none, List.append_nil]
  next =>
    have apart := words_append_append none blank front []
    rwa [List.append_nil, words_nil, List.append_nil] at apart

theorem words_trimEnd (cs : List Char) : words (trimEnd cs) = words cs := by
  have whole : cs = trimEnd cs ++ (cs.reverse.takeWhile isBlank).reverse := by
    rw [trimEnd, ← List.reverse_append, List.takeWhile_append_dropWhile, List.reverse_reverse]
  have blank : ∀ c ∈ (cs.reverse.takeWhile isBlank).reverse, isBlank c = true := by
    intro c member
    exact List.mem_takeWhile_imp (List.mem_reverse.1 member)
  conv_rhs => rw [whole, words_append_blank blank]

/-! ## What words hold -/

theorem solid_of_mem_splitOnP {word cs : List Char} (member : word ∈ cs.splitOnP isBlank) :
    Solid word := by
  induction cs generalizing word with
  | nil =>
    rw [List.splitOnP_nil, List.mem_singleton] at member
    rw [member]
    exact solid_nil
  | cons c cs ih =>
    rw [List.splitOnP_cons_eq_if_modifyHead] at member
    by_cases blank : isBlank c = true
    next =>
      rw [if_pos blank] at member
      rcases List.mem_cons.1 member with rfl | member
      next => exact solid_nil
      next => exact ih member
    next =>
      obtain ⟨first, others, split⟩ :=
        List.exists_cons_of_ne_nil (List.splitOnP_ne_nil isBlank cs)
      rw [if_neg blank, split, List.modifyHead_cons] at member
      rw [split] at ih
      rcases List.mem_cons.1 member with rfl | member
      next => exact solid_cons.2 ⟨by simpa using blank, ih List.mem_cons_self⟩
      next => exact ih (List.mem_cons_of_mem first member)

theorem isWord_of_mem_words {word cs : List Char} (member : word ∈ words cs) : IsWord word := by
  rw [words_eq_filter_splitOnP] at member
  exact ⟨by simpa using List.of_mem_filter member,
    solid_of_mem_splitOnP (List.mem_of_mem_filter member)⟩

theorem flatten_words (cs : List Char) : (words cs).flatten = visible cs := by
  rw [words_eq_filter_splitOnP, List.flatten_filter_ne_nil]
  induction cs with
  | nil => rfl
  | cons c cs ih =>
    obtain ⟨first, others, split⟩ := List.exists_cons_of_ne_nil (List.splitOnP_ne_nil isBlank cs)
    rw [split] at ih
    rw [List.splitOnP_cons_eq_if_modifyHead, split]
    by_cases blank : isBlank c = true
    next =>
      rw [if_pos blank, List.flatten_cons, List.nil_append, ih, visible_cons_blank blank]
    next =>
      have kept : visible (c :: cs) = c :: visible cs := by simp [visible, blank]
      rw [if_neg blank, List.modifyHead_cons, List.flatten_cons, List.cons_append, kept, ← ih,
        List.flatten_cons]

theorem mem_of_mem_words {word cs : List Char} (member : word ∈ words cs) {c : Char}
    (inside : c ∈ word) : c ∈ cs := by
  have kept : c ∈ (words cs).flatten := List.mem_flatten.2 ⟨word, member, inside⟩
  rw [flatten_words] at kept
  exact List.mem_of_mem_filter kept

end CardCatalog.Text
