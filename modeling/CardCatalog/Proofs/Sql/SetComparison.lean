import CardCatalog.Store.Condition
import CardCatalog.Store.Function

/-!
Comparisons of sets as SQL expressions: calls, by name, of functions of a column and of a bound
value. Main statements: such an expression is written as the condition of a term is, and comes
out, missing values included, as the comparison that rows are kept by.
-/

set_option autoImplicit false

namespace CardCatalog

namespace Truth

theorem and_yes (t : Truth) : t.and .yes = t := by
  cases t <;> rfl

theorem ofBool_and (a b : Bool) : (ofBool a).and (ofBool b) = ofBool (a && b) := by
  cases a <;> cases b <;> rfl

theorem not_ofBool (b : Bool) : (ofBool b).not = ofBool !b := by
  cases b <;> rfl

end Truth

namespace Sql

open Query

inductive Argument where
  | column
  | bound
  | lower (a : Argument)

namespace Argument

def sql (name : String) : Argument → String
  | column => name
  | bound => "?"
  | lower a => "lower(" ++ a.sql name ++ ")"

-- NULL in small letters is NULL.
def value (stored bound : Option String) : Argument → Option String
  | .column => stored
  | .bound => bound
  | .lower a => (a.value stored bound).map Text.fold

end Argument

/-- A function of texts that counts or decides. -/
structure Call where
  function : String
  arguments : List Argument

namespace Call

def sql (name : String) (call : Call) : String :=
  call.function ++ "(" ++ ", ".intercalate (call.arguments.map (Argument.sql name)) ++ ")"

def value (stored bound : Option String) (call : Call) : Option Int :=
  let arguments := call.arguments.map fun a => Store.Cell.ofText? (a.value stored bound)
  match Store.call? call.function arguments with
  | some (.int n) => some n
  | _ => none

end Call

inductive Test where
  | compare (c : Comparison) (a b : Call)
  | decide (a : Call)

namespace Test

def sql (name : String) : Test → String
  | compare c a b => a.sql name ++ " " ++ c.sql ++ " " ++ b.sql name
  | decide a => a.sql name

def truth (stored bound : Option String) : Test → Truth
  | .compare c a b =>
    match a.value stored bound, b.value stored bound with
    | some m, some n => .ofBool (c.holds (Ord.compare m n))
    | _, _ => .unknown
  | .decide a => .ofOption (· != 0) (a.value stored bound)

end Test

/-- Tests that must all hold or, with NOT, must not. -/
structure Condition where
  negated : Bool
  tests : List Test

namespace Condition

def sql (name : String) (condition : Condition) : String :=
  let all := "( " ++ " AND ".intercalate (condition.tests.map (Test.sql name)) ++ " )"
  if condition.negated then "NOT " ++ all else all

def truth (stored bound : Option String) (condition : Condition) : Truth :=
  let all := (condition.tests.map (Test.truth stored bound)).foldr Truth.and .yes
  if condition.negated then all.not else all

/-- Compares the sizes of two sets, and asks for containment in the direction of the
comparison. -/
def ofSets (fns : SetFunctions) (c : Comparison) : Condition :=
  let size (c : Comparison) : Test :=
    .compare c ⟨fns.size, [.column]⟩ ⟨fns.size, [.lower .bound]⟩
  let above : Test := .decide ⟨fns.contains, [.lower .column, .lower .bound]⟩
  let below : Test := .decide ⟨fns.contains, [.lower .bound, .lower .column]⟩
  match c with
  | .greater | .atLeast => ⟨false, [size c, above]⟩
  | .less | .atMost => ⟨false, [size c, below]⟩
  | .equal => ⟨false, [size .equal, below, above]⟩
  | .differs => ⟨true, [size .equal, below, above]⟩

theorem sql_ofSets (fns : SetFunctions) (name : String) (c : Comparison) :
    (ofSets fns c).sql name = setComparisonSql fns name c := by
  have column (s : String) : "(" ++ ("lower(" ++ s) = "(lower(" ++ s :=
    String.append_assoc.symm
  have bound (s : String) : "(" ++ ("lower(?), " ++ s) = "(lower(?), " ++ s :=
    String.append_assoc.symm
  have both (s : String) : "(lower(?), " ++ ("lower(" ++ s) = "(lower(?), lower(" ++ s :=
    String.append_assoc.symm
  cases c <;>
    simp [ofSets, sql, Test.sql, Call.sql, Argument.sql, setComparisonSql, String.append_assoc,
      column, bound, both]

theorem compare_natCast (m n : Nat) : compare (m : Int) n = compare m n := by
  simp only [compare, compareOfLessAndEq, Int.ofNat_lt, Int.ofNat_inj]

section

variable {fns : SetFunctions} {size : Option String → Nat}
  {contains : Option String → Option String → Bool}
  (sized : ∀ a, Store.call? fns.size [.ofText? a] = some (.int (size a)))
  (contained : ∀ a b, Store.call? fns.contains [.ofText? a, .ofText? b] =
    some (.ofBool (contains a b)))

include sized contained

theorem truth_ofSets (c : Comparison) (column : Option String) (value : String) :
    (ofSets fns c).truth column (some value) =
      .ofBool (compareSets size contains c column value) := by
  have sizes (a : Argument) : Call.value column (some value) ⟨fns.size, [a]⟩ =
      some (size (a.value column (some value)) : Int) := by
    simp [Call.value, sized]
  have compares (c : Comparison) (a b : Argument) :
      Test.truth column (some value) (.compare c ⟨fns.size, [a]⟩ ⟨fns.size, [b]⟩) =
        .ofBool (c.holds (compare (size (a.value column (some value)))
          (size (b.value column (some value))))) := by
    simp only [Test.truth, sizes, compare_natCast]
  have decides (a b : Argument) : Test.truth column (some value) (.decide ⟨fns.contains, [a, b]⟩) =
      .ofBool (contains (a.value column (some value)) (b.value column (some value))) := by
    simp only [Test.truth, Call.value, List.map_cons, List.map_nil, contained, Store.Cell.ofBool]
    cases contains (a.value column (some value)) (b.value column (some value)) <;> rfl
  cases c <;>
    simp only [ofSets, truth, compareSets, List.map_cons, List.map_nil, List.foldr_cons,
      List.foldr_nil, compares, decides, Argument.value, Option.map_some, Truth.and_yes,
      Truth.ofBool_and, Truth.not_ofBool, Bool.and_assoc, if_true, if_false, Bool.false_eq_true]

end

theorem truth_ofColors (c : Comparison) (column : Option String) (value : String) :
    (ofSets colorFunctions c).truth column (some value) =
      .ofBool (compareColors c column value) := by
  refine truth_ofSets (fun a => ?_) (fun a b => ?_) c column value
  next => cases a <;> rfl
  next => cases a <;> cases b <;> rfl

theorem truth_ofMana (c : Comparison) (column : Option String) (value : String) :
    (ofSets manaFunctions c).truth column (some value) = .ofBool (compareMana c column value) := by
  refine truth_ofSets (fun a => ?_) (fun a b => ?_) c column value
  next => cases a <;> rfl
  next => cases a <;> cases b <;> rfl

end Condition

end Sql

end CardCatalog
