import Mathlib
import CardCatalog.Proofs.Sql.Text

/-!
The text of a condition as SQL takes it: NOT binds tighter than AND, AND tighter than OR, and what
stands in parentheses is one operand. A text is read into an expression over operands that are
known beforehand; what other parentheses hold is read in turn.
-/

set_option autoImplicit false

namespace CardCatalog.Sql

inductive Expression (α : Type) where
  | operand (a : α)
  | not (e : Expression α)
  | and (e f : Expression α)
  | or (e f : Expression α)
  deriving DecidableEq, Repr

namespace Expression

section

variable {α β : Type}

def eval (value : α → Truth) : Expression α → Truth
  | operand a => value a
  | not e => (e.eval value).not
  | and e f => (e.eval value).and (f.eval value)
  | or e f => (e.eval value).or (f.eval value)

def map (f : α → β) : Expression α → Expression β
  | operand a => .operand (f a)
  | not e => .not (e.map f)
  | and e g => .and (e.map f) (g.map f)
  | or e g => .or (e.map f) (g.map f)

def operands : Expression α → List α
  | operand a => [a]
  | not e => e.operands
  | and e f | or e f => e.operands ++ f.operands

def negate : Nat → Expression α → Expression α
  | 0, e => e
  | n + 1, e => .not (negate n e)

theorem negate_not (n : Nat) (e : Expression α) : negate n (.not e) = .not (negate n e) := by
  induction n with
  | zero => rfl
  | succ n ih => rw [negate, ih, negate]

def andAfter (left : Option (Expression α)) (e : Expression α) : Expression α :=
  match left with
  | none => e
  | some l => .and l e

def orAfter (left : Option (Expression α)) (e : Expression α) : Expression α :=
  match left with
  | none => e
  | some l => .or l e

end

end Expression

/-! ## Reading a text -/

/-- The text up to the parenthesis that closes one opened before it, and the text after that. -/
def span (p : Place) : List Char → Option (List Char × List Char)
  | [] => none
  | c :: cs =>
    match p.step c with
    | none => some ([], cs)
    | some next => (span next cs).map fun (inside, rest) => (c :: inside, rest)

theorem length_of_span {p : Place} {cs inside rest : List Char}
    (found : span p cs = some (inside, rest)) : inside.length + rest.length + 1 = cs.length := by
  induction cs generalizing p inside rest with
  | nil => simp [span] at found
  | cons c cs ih =>
    cases steps : p.step c with
    | none => simp_all [span]
    | some next =>
      simp only [span, steps, Option.map_eq_some_iff] at found
      obtain ⟨⟨inside', rest'⟩, found, same⟩ := found
      have shorter := ih found
      grind

theorem Walks.span {cs ds : List Char} {p q : Place} (walks : Walks cs p q) :
    span p (cs ++ ds) = (span q ds).map fun (inside, rest) => (cs ++ inside, rest) := by
  induction cs generalizing p with
  | nil =>
    cases walks
    simp
  | cons c cs ih =>
    obtain ⟨next, steps, walks⟩ := walks_cons.1 walks
    simp only [List.cons_append, Sql.span, steps, ih walks, Option.map_map]
    rfl

theorem span_closed {inside : String} {n : Nat} (leads : Leads inside .start ⟨0, false, n⟩)
    (rest : List Char) :
    span .start (inside.toList ++ ')' :: rest) = some (inside.toList, rest) := by
  rw [Walks.span leads]
  simp [span, Place.step]

mutual

/-- Reads a text where an operand must start, after some alternatives, conditions and NOTs. -/
def readOperand (known : List String) (alternatives conditions : Option (Expression String))
    (negations : Nat) : List Char → Option (Expression String)
  | ' ' :: cs => readOperand known alternatives conditions negations cs
  | 'N' :: 'O' :: 'T' :: ' ' :: cs =>
    readOperand known alternatives conditions (negations + 1) cs
  | '(' :: cs =>
    match _found : span .start cs with
    | none => none
    | some (inside, rest) =>
      let whole := "(" ++ String.ofList inside ++ ")"
      let operand := if whole ∈ known then some (.operand whole)
        else readOperand known none none 0 inside
      match operand with
      | none => none
      | some e => readConnective known alternatives (.andAfter conditions (e.negate negations)) rest
  | _ => none
termination_by cs => cs.length
decreasing_by
  all_goals simp_wf
  next => omega
  all_goals
    have shorter := length_of_span _found
    omega

def readConnective (known : List String) (alternatives : Option (Expression String))
    (conditions : Expression String) : List Char → Option (Expression String)
  | [] => some (.orAfter alternatives conditions)
  | ' ' :: cs => readConnective known alternatives conditions cs
  | 'A' :: 'N' :: 'D' :: ' ' :: cs => readOperand known alternatives (some conditions) 0 cs
  | 'O' :: 'R' :: ' ' :: cs =>
    readOperand known (some (.orAfter alternatives conditions)) none 0 cs
  | _ => none
termination_by cs => cs.length

end

/-- The expression that a text stands for, if it is made of the known texts, each of them in
parentheses. -/
def read (known : List String) (sql : String) : Option (Expression String) :=
  readOperand known none none 0 sql.toList

example : read ["(a)", "(b)", "(c)"] "NOT (a) AND (b) OR (c)" = some
    (.or (.and (.not (.operand "(a)")) (.operand "(b)")) (.operand "(c)")) := by
  cbv

section

variable {known : List String} (alternatives conditions : Option (Expression String))
  (negations : Nat)

theorem readOperand_blank (cs : List Char) :
    readOperand known alternatives conditions negations (' ' :: cs) =
      readOperand known alternatives conditions negations cs := by
  rw [readOperand]

theorem readOperand_not (cs : List Char) :
    readOperand known alternatives conditions negations ('N' :: 'O' :: 'T' :: ' ' :: cs) =
      readOperand known alternatives conditions (negations + 1) cs := by
  rw [readOperand]

theorem readOperand_enclosed {inside : String} {n : Nat} {e : Expression String}
    (leads : Leads inside .start ⟨0, false, n⟩)
    (reads : (if "(" ++ inside ++ ")" ∈ known then some (.operand ("(" ++ inside ++ ")"))
      else readOperand known none none 0 inside.toList) = some e) (rest : List Char) :
    readOperand known alternatives conditions negations ('(' :: (inside.toList ++ ')' :: rest)) =
      readConnective known alternatives (.andAfter conditions (e.negate negations)) rest := by
  rw [readOperand]
  split
  next none =>
    rw [span_closed leads] at none
    cases none
  next inside' rest' found =>
    rw [span_closed leads] at found
    cases found
    simp only [String.ofList_toList, reads]

theorem readConnective_and (e : Expression String) (cs : List Char) :
    readConnective known alternatives e (' ' :: 'A' :: 'N' :: 'D' :: ' ' :: cs) =
      readOperand known alternatives (some e) 0 cs := by
  rw [readConnective, readConnective]

theorem readConnective_or (e : Expression String) (cs : List Char) :
    readConnective known alternatives e (' ' :: 'O' :: 'R' :: ' ' :: cs) =
      readOperand known (some (.orAfter alternatives e)) none 0 cs := by
  rw [readConnective, readConnective]

end

end CardCatalog.Sql
