import Mathlib
import CardCatalog.Text.Width

/-!
The columns of a text without control characters: the sum over its characters.
-/

set_option autoImplicit false

namespace CardCatalog.Text

def Plain (cs : List Char) : Prop :=
  ∀ c ∈ cs, isControl c = false

instance (cs : List Char) : Decidable (Plain cs) :=
  List.decidableBAll (fun c => isControl c = false) cs

/-- The sum of the widths of the characters. -/
def columns (cs : List Char) : Nat :=
  (cs.map charWidth).sum

@[simp]
theorem plain_nil : Plain [] := by
  simp [Plain]

@[simp]
theorem plain_cons {c : Char} {cs : List Char} :
    Plain (c :: cs) ↔ isControl c = false ∧ Plain cs := by
  simp [Plain]

@[simp]
theorem plain_append {front back : List Char} :
    Plain (front ++ back) ↔ Plain front ∧ Plain back := by
  simp [Plain, or_imp, forall_and]

theorem Plain.of_subset {cs ds : List Char} (plain : Plain ds) (subset : cs ⊆ ds) : Plain cs :=
  fun c member => plain c (subset member)

@[simp]
theorem columns_nil : columns [] = 0 :=
  rfl

@[simp]
theorem columns_cons (c : Char) (cs : List Char) :
    columns (c :: cs) = charWidth c + columns cs := by
  simp [columns]

@[simp]
theorem columns_append (front back : List Char) :
    columns (front ++ back) = columns front + columns back := by
  simp [columns]

theorem columns_replicate (n : Nat) (c : Char) :
    columns (List.replicate n c) = n * charWidth c := by
  simp [columns]

theorem textWidth_eq_columns {cs : List Char} (plain : Plain cs) : textWidth cs = columns cs := by
  fun_induction textWidth cs with
  | case1 => rfl
  | case2 rest ih =>
    have control := plain '\r' List.mem_cons_self
    cases control
  | case3 c rest apart ih =>
    obtain ⟨first, others⟩ := plain_cons.1 plain
    rw [if_neg (by simp [first]), ih others, columns_cons]

/-- Only the Khmer sign beyyal is wider than two columns. -/
theorem charWidth_le (c : Char) : charWidth c ≤ 2 ∨ c = '\u17d8' ∧ charWidth c = 3 := by
  by_cases khmer : c = '\u17d8'
  next =>
    subst khmer
    exact .inr ⟨rfl, by decide +kernel⟩
  next =>
    have other : c.val ≠ 0x17d8 := fun same => khmer (Char.ext same)
    left
    simp only [charWidth, beq_iff_eq, other, if_false]
    split_ifs <;> omega

end CardCatalog.Text
