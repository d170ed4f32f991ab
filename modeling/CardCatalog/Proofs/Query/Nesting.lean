import Mathlib
import CardCatalog.Query.Parser

/-!
How deep the reader is. Main statement: whatever it reads, it is never within more negations and
groups than may nest.
-/

set_option autoImplicit false

namespace CardCatalog.Query.Parser

section

variable {rate : Float} {p next : Parser} {enclosing : List Before} {b : Before} {a : After}
  {t : Token}

theorem depth_negated (enclosing : List Before) (b : Before) :
    depth ⟨enclosing, .term { b with negations := b.negations + 1 }⟩ =
      depth ⟨enclosing, .term b⟩ + 1 := by
  simp only [depth, Position.negations]
  omega

theorem depth_opened (enclosing : List Before) (b : Before) :
    depth ⟨b :: enclosing, .term .start⟩ = depth ⟨enclosing, .term b⟩ + 1 := by
  simp only [depth, Position.negations, Before.start, List.foldr_cons]
  omega

theorem depth_after_le (enclosing : List Before) (b : Before) (a : After) :
    depth ⟨enclosing, .after a⟩ ≤ depth ⟨enclosing, .term b⟩ := by
  simp [depth, Position.negations]

theorem depth_closed_le (enclosing : List Before) (b : Before) (a a' : After) :
    depth ⟨enclosing, .after a⟩ ≤ depth ⟨b :: enclosing, .after a'⟩ := by
  simp only [depth, Position.negations, List.foldr_cons]
  omega

-- Only here does the reader go deeper, and it makes sure that there is room.
theorem depth_startTerm (shallow : depth ⟨enclosing, .term b⟩ ≤ maxNesting)
    (steps : startTerm enclosing b t = .ok next) : next.depth ≤ maxNesting := by
  cases kind : t.kind with
  | not =>
    simp only [startTerm, kind] at steps
    split at steps
    next => cases steps
    next room =>
      cases steps
      rw [depth_negated]
      omega
  | openParen =>
    simp only [startTerm, kind] at steps
    split at steps
    next => cases steps
    next room =>
      cases steps
      rw [depth_opened]
      omega
  | quoted =>
    simp only [startTerm, kind, Except.ok.injEq] at steps
    subst steps
    exact (depth_after_le _ _ _).trans shallow
  | bang | word =>
    simp only [startTerm, kind, Except.ok.injEq] at steps
    subst steps
    exact shallow
  | _ => simp [startTerm, kind, unexpected] at steps

theorem depth_continueAfter (shallow : depth ⟨enclosing, .after a⟩ ≤ maxNesting)
    (steps : continueAfter enclosing a t = .ok next) : next.depth ≤ maxNesting := by
  unfold continueAfter at steps
  split at steps
  next =>
    cases steps
    exact shallow
  next =>
    cases enclosing with
    | nil => cases steps
    | cons before outer =>
      cases steps
      exact (depth_closed_le _ _ _ _).trans shallow
  next => exact depth_startTerm shallow steps

theorem depth_finishKeyword {word value : Token} {operator : Operator} {exact : Bool}
    (shallow : depth ⟨enclosing, .term b⟩ ≤ maxNesting)
    (steps : finishKeyword rate enclosing b word operator exact value = .ok next) :
    next.depth ≤ maxNesting := by
  unfold finishKeyword at steps
  split at steps
  next =>
    cases steps
    exact (depth_after_le _ _ _).trans shallow
  next => cases steps

theorem depth_step (shallow : p.depth ≤ maxNesting) (steps : p.step rate t = .ok next) :
    next.depth ≤ maxNesting := by
  obtain ⟨enclosing, position⟩ := p
  cases position with
  | term b => exact depth_startTerm shallow steps
  | word b word =>
    simp only [step] at steps
    split at steps
    next =>
      split at steps
      all_goals
        cases steps
        exact shallow
    next => exact depth_continueAfter ((depth_after_le enclosing b _).trans shallow) steps
  | exactName b =>
    simp only [step] at steps
    split at steps
    next =>
      cases steps
      exact (depth_after_le enclosing b _).trans shallow
    next => cases steps
  | value b word operator exact =>
    simp only [step] at steps
    split at steps
    next =>
      cases steps
      exact shallow
    next =>
      split at steps
      next => exact depth_finishKeyword shallow steps
      next => cases steps
  | operand b word operator =>
    simp only [step] at steps
    split at steps
    next => exact depth_finishKeyword shallow steps
    next => cases steps
  | after a => exact depth_continueAfter shallow steps

theorem depth_run {ts : List Token} (shallow : p.depth ≤ maxNesting)
    (runs : p.run rate ts = .ok next) : next.depth ≤ maxNesting := by
  induction ts generalizing p with
  | nil =>
    cases runs
    exact shallow
  | cons t ts ih =>
    simp only [run] at runs
    split at runs
    next middle steps => exact ih (depth_step shallow steps) runs
    next => cases runs

end

end CardCatalog.Query.Parser
