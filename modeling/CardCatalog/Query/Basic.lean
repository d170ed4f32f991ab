import CardCatalog.Query.Term
import CardCatalog.Truth

/-!
Queries as trees. The rank of a query says where it may stand without parentheses: a single
condition, conditions that must all hold, or alternatives. A tree of some rank is therefore
written down unambiguously, and its text needs no parentheses but those of its groups.
-/

set_option autoImplicit false

namespace CardCatalog

namespace Query

inductive Rank where
  | single
  | all
  | any
  deriving DecidableEq, Repr

end Query

open Query in
/-- A query of a rank; the query of a whole search text has the rank `any`. -/
inductive Query : Rank → Type where
  | term (t : Term) : Query .single
  | not (q : Query .single) : Query .single
  | group (q : Query .any) : Query .single
  | one (q : Query .single) : Query .all
  | and (p : Query .all) (q : Query .single) : Query .all
  | only (p : Query .all) : Query .any
  | or (p : Query .any) (q : Query .all) : Query .any

namespace Query

/-- The truth of a query, given the truth of its terms. -/
def eval (value : Term → Truth) {r : Rank} : Query r → Truth
  | term t => value t
  | not q => (q.eval value).not
  | group q => q.eval value
  | one q => q.eval value
  | and p q => (p.eval value).and (q.eval value)
  | only p => p.eval value
  | or p q => (p.eval value).or (q.eval value)

def fragment {r : Rank} : Query r → Fragment
  | term t => t.fragment
  | not q => q.fragment.negate
  | group q => q.fragment.group
  | one q => q.fragment
  | and p q => p.fragment.and q.fragment
  | only p => p.fragment
  | or p q => p.fragment.or q.fragment

def terms {r : Rank} : Query r → List Term
  | term t => [t]
  | not q => q.terms
  | group q => q.terms
  | one q => q.terms
  | and p q => p.terms ++ q.terms
  | only p => p.terms
  | or p q => p.terms ++ q.terms

def negate : Nat → Query .single → Query .single
  | 0, q => q
  | n + 1, q => .not (negate n q)

end Query

end CardCatalog
