/-!
Truth values of conditions on stored data, where a missing value makes a condition unknown. A
connective is unknown unless its known operands decide it.
-/

set_option autoImplicit false

namespace CardCatalog

inductive Truth where
  | yes
  | no
  | unknown
  deriving DecidableEq, Repr

namespace Truth

def ofBool (b : Bool) : Truth :=
  if b then yes else no

/-- The truth of a condition on a value that may be missing. -/
def ofOption {α : Type} (p : α → Bool) : Option α → Truth
  | some a => ofBool (p a)
  | none => unknown

protected def not : Truth → Truth
  | yes => no
  | no => yes
  | unknown => unknown

protected def and : Truth → Truth → Truth
  | no, _ => no
  | _, no => no
  | yes, yes => yes
  | _, _ => unknown

protected def or : Truth → Truth → Truth
  | yes, _ => yes
  | _, yes => yes
  | no, no => no
  | _, _ => unknown

/-- Only what is known to hold is kept. -/
def holds (t : Truth) : Bool :=
  t = yes

@[simp]
theorem holds_ofBool (b : Bool) : (ofBool b).holds = b := by
  cases b <;> rfl

theorem ofBool_eq_yes {b : Bool} : ofBool b = yes ↔ b = true := by
  cases b <;> simp [ofBool]

@[simp]
theorem holds_and (s t : Truth) : (s.and t).holds = (s.holds && t.holds) := by
  cases s <;> cases t <;> rfl

@[simp]
theorem holds_or (s t : Truth) : (s.or t).holds = (s.holds || t.holds) := by
  cases s <;> cases t <;> rfl

@[simp]
theorem not_not (t : Truth) : t.not.not = t := by
  cases t <;> rfl

theorem not_or (s t : Truth) : (s.or t).not = s.not.and t.not := by
  cases s <;> cases t <;> rfl

theorem not_and (s t : Truth) : (s.and t).not = s.not.or t.not := by
  cases s <;> cases t <;> rfl

theorem and_comm (s t : Truth) : s.and t = t.and s := by
  cases s <;> cases t <;> rfl

theorem or_comm (s t : Truth) : s.or t = t.or s := by
  cases s <;> cases t <;> rfl

theorem and_assoc (s t u : Truth) : (s.and t).and u = s.and (t.and u) := by
  cases s <;> cases t <;> cases u <;> rfl

theorem or_assoc (s t u : Truth) : (s.or t).or u = s.or (t.or u) := by
  cases s <;> cases t <;> cases u <;> rfl

theorem holds_iff {t : Truth} : t.holds = true ↔ t = yes := by
  simp [holds]

@[simp]
theorem and_eq_yes {s t : Truth} : s.and t = yes ↔ s = yes ∧ t = yes := by
  cases s <;> cases t <;> decide

@[simp]
theorem or_eq_yes {s t : Truth} : s.or t = yes ↔ s = yes ∨ t = yes := by
  cases s <;> cases t <;> decide

@[simp]
theorem not_eq_yes {t : Truth} : t.not = yes ↔ t = no := by
  cases t <;> decide

@[simp]
theorem ofBool_ne_unknown (b : Bool) : ofBool b ≠ unknown := by
  cases b <;> decide

theorem ofOption_ne_unknown {α : Type} {p : α → Bool} {a : Option α} (present : a.isSome = true) :
    ofOption p a ≠ unknown := by
  cases a with
  | none => cases present
  | some a => exact ofBool_ne_unknown (p a)

@[simp]
theorem not_eq_unknown {t : Truth} : t.not = unknown ↔ t = unknown := by
  cases t <;> decide

theorem and_ne_unknown {s t : Truth} (first : s ≠ unknown) (second : t ≠ unknown) :
    s.and t ≠ unknown := by
  cases s <;> cases t <;> simp_all [Truth.and]

theorem or_ne_unknown {s t : Truth} (first : s ≠ unknown) (second : t ≠ unknown) :
    s.or t ≠ unknown := by
  cases s <;> cases t <;> simp_all [Truth.or]

end Truth

end CardCatalog
