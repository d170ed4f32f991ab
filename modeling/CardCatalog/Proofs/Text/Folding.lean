import Mathlib
import CardCatalog.Text.Ascii
import CardCatalog.Text.Blank
import CardCatalog.Text.LetterCase

/-!
What making ASCII capitals small leaves as it is. Main statement: the full lower case of a text
does not change when its ASCII capitals are made small first.
-/

set_option autoImplicit false

namespace CardCatalog.Text

theorem toLower_eq_self_or (c : Char) :
    c.toLower = c ∨ ∃ i < 26, c = Char.ofNat (65 + i) ∧ c.toLower = Char.ofNat (97 + i) := by
  by_cases capital : 65 ≤ c.toNat ∧ c.toNat ≤ 90
  next =>
    obtain ⟨i, code⟩ := Nat.exists_eq_add_of_le capital.1
    have same : c = Char.ofNat (65 + i) := by rw [← code, Char.ofNat_toNat]
    have letter : ∀ i < 26, (Char.ofNat (65 + i)).toLower = Char.ofNat (97 + i) := by decide
    exact .inr ⟨i, by omega, same, same ▸ letter i (by omega)⟩
  next =>
    left
    unfold Char.toLower
    exact dif_neg capital

/-- What is the same of each capital and its small letter is the same of every character. -/
theorem apply_toLower {β : Type} (f : Char → β)
    (same : ∀ i < 26, f (Char.ofNat (97 + i)) = f (Char.ofNat (65 + i))) (c : Char) :
    f c.toLower = f c := by
  obtain unchanged | ⟨i, letter, capital, small⟩ := toLower_eq_self_or c
  next => rw [unchanged]
  next => rw [small, capital, same i letter]

@[simp]
theorem isBlank_toLower (c : Char) : isBlank c.toLower = isBlank c :=
  apply_toLower isBlank (by decide) c

@[simp]
theorem isDigit_toLower (c : Char) : c.toLower.isDigit = c.isDigit :=
  apply_toLower Char.isDigit (by decide) c

@[simp]
theorem isAlphabetic_toLower (c : Char) : isAlphabetic c.toLower = isAlphabetic c :=
  apply_toLower isAlphabetic (by decide) c

@[simp]
theorem lowerChar_toLower (c : Char) : lowerChar c.toLower = lowerChar c :=
  apply_toLower lowerChar (by decide) c

@[simp]
theorem isCased_toLower (c : Char) : isCased c.toLower = isCased c :=
  apply_toLower isCased (by decide) c

@[simp]
theorem isCaseIgnorable_toLower (c : Char) : isCaseIgnorable c.toLower = isCaseIgnorable c :=
  apply_toLower isCaseIgnorable (by decide +kernel) c

theorem toLower_of_isDigit {c : Char} (digit : c.isDigit = true) : c.toLower = c := by
  obtain unchanged | ⟨i, letter, capital, -⟩ := toLower_eq_self_or c
  next => exact unchanged
  next =>
    have none : ∀ i < 26, (Char.ofNat (65 + i)).isDigit = false := by decide
    rw [capital, none i letter] at digit
    cases digit

/-- A character that is no ASCII letter is met in the same places. -/
theorem toLower_eq_iff {d : Char} (other : ∀ i < 26, d ≠ Char.ofNat (65 + i) ∧
    d ≠ Char.ofNat (97 + i)) (c : Char) : c.toLower = d ↔ c = d := by
  obtain unchanged | ⟨i, letter, capital, small⟩ := toLower_eq_self_or c
  next => rw [unchanged]
  next =>
    rw [small, capital]
    exact ⟨fun same => absurd same.symm (other i letter).2,
      fun same => absurd same.symm (other i letter).1⟩

theorem dropWhile_map_toLower {p : Char → Bool} (same : ∀ c, p c.toLower = p c)
    (cs : List Char) : (cs.map Char.toLower).dropWhile p = (cs.dropWhile p).map Char.toLower := by
  rw [List.dropWhile_map, show p ∘ Char.toLower = p from funext same]

theorem takeWhile_map_toLower {p : Char → Bool} (same : ∀ c, p c.toLower = p c)
    (cs : List Char) : (cs.map Char.toLower).takeWhile p = (cs.takeWhile p).map Char.toLower := by
  rw [List.takeWhile_map, show p ∘ Char.toLower = p from funext same]

theorem takeWhile_isDigit_map_toLower (cs : List Char) :
    (cs.map Char.toLower).takeWhile Char.isDigit = cs.takeWhile Char.isDigit := by
  rw [takeWhile_map_toLower isDigit_toLower]
  refine (List.map_congr_left fun c member => ?_).trans (List.map_id _)
  exact toLower_of_isDigit (List.mem_takeWhile_imp member)

theorem trimChars_map_toLower (cs : List Char) :
    trimChars (cs.map Char.toLower) = (trimChars cs).map Char.toLower := by
  simp only [trimChars, trimEnd, dropWhile_map_toLower isBlank_toLower, ← List.map_reverse]

theorem meetsCased_map_toLower (cs : List Char) :
    meetsCased (cs.map Char.toLower) = meetsCased cs := by
  simp only [meetsCased, dropWhile_map_toLower isCaseIgnorable_toLower, List.head?_map,
    Option.map_map]
  rw [show isCased ∘ Char.toLower = isCased from funext isCased_toLower]

theorem lowerChars_map_toLower (before cs : List Char) :
    lowerChars (before.map Char.toLower) (cs.map Char.toLower) = lowerChars before cs := by
  induction cs generalizing before with
  | nil => rfl
  | cons c rest ih =>
    have sigma : (c.toLower == 'Σ') = (c == 'Σ') := by
      rw [Bool.eq_iff_iff, beq_iff_eq, beq_iff_eq]
      exact toLower_eq_iff (by decide) c
    have later := ih (c :: before)
    rw [List.map_cons] at later
    simp only [List.map_cons, lowerChars, later, sigma, meetsCased_map_toLower, lowerChar_toLower]

theorem toLower_toLower (c : Char) : c.toLower.toLower = c.toLower :=
  apply_toLower Char.toLower (by decide) c

theorem map_toLower_map_toLower (cs : List Char) :
    (cs.map Char.toLower).map Char.toLower = cs.map Char.toLower := by
  rw [List.map_map, show Char.toLower ∘ Char.toLower = Char.toLower from funext toLower_toLower]

/-- What every ASCII character has, a character below 128 has. -/
theorem forall_of_ascii {p : Char → Prop} (all : ∀ i < 128, p (Char.ofNat i)) {c : Char}
    (ascii : c.toNat < 128) : p c := by
  rw [← Char.ofNat_toNat c]
  exact all c.toNat ascii

theorem lowerChar_of_ascii {c : Char} (ascii : c.toNat < 128) : lowerChar c = [c.toLower] := by
  have small : c.val < 0x80 := ascii
  rw [lowerChar, if_pos small]

theorem lowerChars_of_ascii (before : List Char) {cs : List Char}
    (ascii : ∀ c ∈ cs, c.toNat < 128) : lowerChars before cs = cs.map Char.toLower := by
  induction cs generalizing before with
  | nil => rfl
  | cons c rest ih =>
    obtain ⟨first, others⟩ := List.forall_mem_cons.1 ascii
    have sigma : (c == 'Σ') = false := by
      rw [beq_eq_false_iff_ne]
      rintro rfl
      exact absurd first (by decide)
    simp only [lowerChars, sigma, lowerChar_of_ascii first, ih (c :: before) others, List.map_cons,
      Bool.false_eq_true, if_false, List.singleton_append]

theorem fold_ofList (cs : List Char) :
    fold (String.ofList cs) = String.ofList (cs.map Char.toLower) := by
  rw [fold, String.toList_ofList]

theorem fold_singleton (c : Char) : fold (String.singleton c) = String.singleton c.toLower := by
  rw [← String.toList_inj]
  simp

theorem fold_fold (s : String) : fold (fold s) = fold s := by
  rw [fold, toList_fold, map_toLower_map_toLower, fold]

theorem getD_map_fold (column : Option String) :
    (column.map fold).getD "" = fold (column.getD "") := by
  cases column <;> rfl

@[simp]
theorem fold_eq_empty {s : String} : fold s = "" ↔ s = "" := by
  simp [fold]

end CardCatalog.Text
