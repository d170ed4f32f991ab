import CardCatalog.Proofs.Query.Parsing
import CardCatalog.Proofs.Sql.Reader

/-!
What the text of a query means to SQL. Main statement: read with the precedence of SQL, the text
is the query again, with the texts of its terms as operands.
-/

set_option autoImplicit false

namespace CardCatalog.Query

open Sql

/-! ## The text of a query -/

def expression {r : Rank} : Query r → Expression Term
  | term t => .operand t
  | not q => .not q.expression
  | group q => q.expression
  | one q => q.expression
  | and p q => .and p.expression q.expression
  | only p => p.expression
  | or p q => .or p.expression q.expression

theorem operands_expression {r : Rank} (q : Query r) : q.expression.operands = q.terms := by
  induction q <;> simp_all [expression, Expression.operands, terms]

theorem eval_expression {r : Rank} (value : Term → Truth) (q : Query r) :
    q.expression.eval value = q.eval value := by
  induction q <;> simp_all [expression, Expression.eval, eval]

def sqlExpression {r : Rank} (q : Query r) : Expression String :=
  q.expression.map fun t => t.fragment.sql

/-- How many times the end of a text, which is given backwards, closes a group. -/
def closings : List Char → Nat
  | ')' :: ' ' :: cs => closings cs + 1
  | ')' :: ')' :: _ => 0
  | _ => 1

theorem closings_group (before : List Char) (f : Fragment) :
    closings (before ++ f.group.sql.toList).reverse =
      closings (before ++ ['(', ' '] ++ f.sql.toList).reverse + 1 := by
  simp [Fragment.group, closings]

-- Terms all end alike, so that a group around a query has one closing more than any of them.
theorem closings_onFaces (before : List Char) (f g : Fragment) (layouts : List Layout) :
    closings (before ++ (Fragment.onFaces f g layouts).sql.toList).reverse = 2 := by
  obtain ⟨opening, ends⟩ : ∃ opening, (Fragment.onFaces f g layouts).sql = opening ++ " )) ) )" :=
    ⟨_, rfl⟩
  simp [ends, closings]

theorem closings_onCard (before : List Char) {front last : String} (value : Param)
    (once : ∀ cs, closings (last.toList.reverse ++ cs) = 1) :
    closings (before ++ (Fragment.onCard (.ofValue (front ++ last) value)).sql.toList).reverse =
      2 := by
  have group : Fragment.onCard (.ofValue (front ++ last) value) =
      (Fragment.ofValue (front ++ last) value).group := rfl
  rw [group, closings_group]
  simp only [Fragment.ofValue, String.toList_append, List.reverse_append, List.append_assoc, once]

theorem closings_term (before : List Char) (t : Term) :
    closings (before ++ t.fragment.sql.toList).reverse = 2 := by
  cases t with
  | name | text | type | colors | mana => exact closings_onFaces _ _ _ _
  | column => exact closings_onCard before _ (by simp [closings])
  | measure m =>
    cases m with
    | power | toughness => exact closings_onFaces _ _ _ _
    | cmc | loyalty | year => exact closings_onCard before _ (by simp [closings])
  | price => exact closings_onCard before _ (by simp [closings])

theorem closings_fragment (before : List Char) {r : Rank} (q : Query r) :
    2 ≤ closings (before ++ q.fragment.sql.toList).reverse := by
  induction q generalizing before with
  | term t => exact Nat.le_of_eq (closings_term before t).symm
  | not q ih => simpa [fragment, Fragment.negate] using ih (before ++ "NOT ".toList)
  | group q ih =>
    have inner := ih (before ++ ['(', ' '])
    rw [fragment, closings_group]
    omega
  | one q ih | only q ih => exact ih before
  | and p q _ ih =>
    simpa [fragment, Fragment.and, Fragment.join] using
      ih (before ++ p.fragment.sql.toList ++ " AND ".toList)
  | or p q _ ih =>
    simpa [fragment, Fragment.or, Fragment.join] using
      ih (before ++ p.fragment.sql.toList ++ " OR ".toList)

theorem isEmpty_fragment {r : Rank} (q : Query r) : q.fragment.isEmpty = false := by
  have ends := closings_fragment [] q
  cases empty : q.fragment.isEmpty with
  | false => rfl
  | true =>
    have none : q.fragment.sql = "" := by simpa [Fragment.isEmpty] using empty
    simp [none, closings] at ends

theorem group_ne_term (q : Query .any) (t : Term) : q.fragment.group.sql ≠ t.fragment.sql := by
  intro same
  have term := closings_term [] t
  have inner := closings_fragment ([] ++ ['(', ' ']) q
  rw [← same, closings_group] at term
  omega

/-- The text of a query is read as the query, whatever stands around it. -/
def ReadsBack (known : List String) : {r : Rank} → Query r → Prop
  | .single, q => ∀ alternatives conditions n rest,
    readOperand known alternatives conditions n (q.fragment.sql.toList ++ rest) =
      readConnective known alternatives (.andAfter conditions (q.sqlExpression.negate n)) rest
  | .all, q => ∀ alternatives rest,
    readOperand known alternatives none 0 (q.fragment.sql.toList ++ rest) =
      readConnective known alternatives q.sqlExpression rest
  | .any, q => ∃ alternatives conditions, .orAfter alternatives conditions = q.sqlExpression ∧
    ∀ rest, readOperand known none none 0 (q.fragment.sql.toList ++ rest) =
      readConnective known alternatives conditions rest

theorem ReadsBack.read {known : List String} {q : Query .any} (reads : ReadsBack known q) :
    Sql.read known q.fragment.sql = some q.sqlExpression := by
  obtain ⟨alternatives, conditions, joined, reads⟩ := reads
  have whole := reads []
  rw [List.append_nil, readConnective, joined] at whole
  exact whole

theorem readsBack {known : List String} {r : Rank} (q : Query r)
    (listed : ∀ t ∈ q.terms, t.fragment.sql ∈ known)
    (terms : ∀ s ∈ known, ∃ t : Term, t.fragment.sql = s) : ReadsBack known q := by
  -- The rest of the text stays arbitrary, since a query is read within a longer one.
  induction q with
  | term t =>
    intro alternatives conditions n rest
    obtain ⟨inside, same, leads⟩ := t.fragment_enclosed
    have member : "(" ++ inside ++ ")" ∈ known := by
      rw [← same]
      exact listed t (List.mem_singleton_self t)
    have reads := readOperand_enclosed alternatives conditions n leads (if_pos member) rest
    simpa [fragment, sqlExpression, expression, Expression.map, same] using reads
  | not q ih =>
    intro alternatives conditions n rest
    have reads := ih listed alternatives conditions (n + 1) rest
    simpa [fragment, Fragment.negate, sqlExpression, expression, Expression.map,
      readOperand_not, Expression.negate_not, Expression.negate] using reads
  | group q ih =>
    intro alternatives conditions n rest
    obtain ⟨inner, last, joined, reads⟩ := ih listed
    -- A group is opened and read, which needs that its text is no term's.
    have unlisted : "(" ++ (" " ++ q.fragment.sql ++ " ") ++ ")" ∉ known := by
      intro member
      obtain ⟨t, same⟩ := terms _ member
      exact group_ne_term q t (q.fragment.group_sql.trans same.symm)
    have inside : readOperand known none none 0 (" " ++ q.fragment.sql ++ " ").toList =
        some q.sqlExpression := by
      have spaced : (" " ++ q.fragment.sql ++ " ").toList =
          ' ' :: (q.fragment.sql.toList ++ [' ']) := by
        simp
      rw [spaced, readOperand_blank, reads, readConnective, readConnective, joined]
    have whole := readOperand_enclosed alternatives conditions n (fragment_closed q).spaced
      ((if_neg unlisted).trans inside) rest
    have text : (group q).fragment.sql.toList ++ rest =
        '(' :: ((" " ++ q.fragment.sql ++ " ").toList ++ ')' :: rest) := by
      simp [fragment, Fragment.group]
    rw [text]
    exact whole
  | one q ih =>
    intro alternatives rest
    exact ih listed alternatives none 0 rest
  | and p q ihp ihq =>
    intro alternatives rest
    have left := ihp (fun t member => listed t (List.mem_append_left _ member)) alternatives
      (" AND ".toList ++ (q.fragment.sql.toList ++ rest))
    have right := ihq (fun t member => listed t (List.mem_append_right _ member)) alternatives
      (some p.sqlExpression) 0 rest
    have text : (and p q).fragment.sql.toList ++ rest =
        p.fragment.sql.toList ++ (" AND ".toList ++ (q.fragment.sql.toList ++ rest)) := by
      simp [fragment, Fragment.and, Fragment.join]
    rw [text, left]
    exact (readConnective_and _ _ _).trans right
  | only p ih => exact ⟨none, _, rfl, ih listed none⟩
  | or p q ihp ihq =>
    obtain ⟨alternatives, conditions, joined, left⟩ :=
      ihp fun t member => listed t (List.mem_append_left _ member)
    have right := ihq (fun t member => listed t (List.mem_append_right _ member))
      (some p.sqlExpression)
    refine ⟨some p.sqlExpression, q.sqlExpression, rfl, fun rest => ?_⟩
    have text : (or p q).fragment.sql.toList ++ rest =
        p.fragment.sql.toList ++ (" OR ".toList ++ (q.fragment.sql.toList ++ rest)) := by
      simp [fragment, Fragment.or, Fragment.join]
    rw [text, left, ← right, ← joined]
    exact readConnective_or _ _ _

theorem readsBack_of_terms {q : Query .any} {ts : List Term} (listed : q.terms ⊆ ts) :
    ReadsBack (ts.map fun t => t.fragment.sql) q := by
  apply readsBack
  next =>
    intro t member
    exact List.mem_map_of_mem (listed member)
  next =>
    intro text member
    obtain ⟨t, -, same⟩ := List.mem_map.1 member
    exact ⟨t, same⟩

/-! ## Derivations -/

def Leaf.eval (rate : Float) (value : Term → Truth) (l : Leaf) : Truth :=
  match l.term rate with
  | .ok t => value t
  -- Never the case within the derivation of an accepted text.
  | .error _ => .unknown

def Derivation.eval (rate : Float) (value : Term → Truth) {r : Rank} : Derivation r → Truth
  | leaf l => l.eval rate value
  | not _ d => (d.eval rate value).not
  | group _ d _ => d.eval rate value
  | last d => d.eval rate value
  | and d rest => (d.eval rate value).and (rest.eval rate value)
  | only d => d.eval rate value
  | or d _ rest => (d.eval rate value).or (rest.eval rate value)

def evalAfter (value : Term → Truth) (t : Truth) : {r : Rank} → Option (Query r) → Truth
  | _, none => t
  | .single, some _ => t
  | .all, some p => (p.eval value).and t
  | .any, some p => (p.eval value).or t

theorem eval_of_query {rate : Float} {r : Rank} {left : Option (Query r)} {d : Derivation r}
    {q : Query r} (stands : d.query rate left = .ok q) (value : Term → Truth) :
    q.eval value = evalAfter value (d.eval rate value) left := by
  induction d with
  | leaf l =>
    obtain ⟨t, accepted, rfl⟩ := map_eq_ok_iff.1 stands
    cases left <;> simp [eval, evalAfter, Derivation.eval, Leaf.eval, accepted]
  | not sign d ih =>
    obtain ⟨p, inner, rfl⟩ := map_eq_ok_iff.1 stands
    have negated := ih inner
    cases left <;> simp_all [eval, evalAfter, Derivation.eval]
  | group opening d closing ih =>
    obtain ⟨p, inner, rfl⟩ := map_eq_ok_iff.1 stands
    have grouped := ih inner
    cases left <;> simp_all [eval, evalAfter, Derivation.eval]
  | last d ih | only d ih =>
    obtain ⟨p, inner, rfl⟩ := map_eq_ok_iff.1 stands
    have joined := ih inner
    cases left <;> simp_all [eval, evalAfter, Derivation.eval, andAfter, orAfter]
  | and d rest ih restIh =>
    obtain ⟨p, inner, others⟩ := bind_eq_ok_iff.1 stands
    have single := ih inner
    rw [restIh others]
    cases left <;> simp_all [eval, evalAfter, Derivation.eval, andAfter, Truth.and_assoc]
  | or d sign rest ih restIh =>
    obtain ⟨p, inner, others⟩ := bind_eq_ok_iff.1 stands
    have combination := ih inner
    rw [restIh others]
    cases left <;> simp_all [eval, evalAfter, Derivation.eval, orAfter, Truth.or_assoc]

/-- The text of a condition, with the precedence of SQL, is an expression over the texts of its
terms, each of them one span in parentheses, and its truth is that of the derivation. -/
theorem read_condition (rate : Float) (text : String) {f : Fragment}
    (compiles : (compile rate text).map conditionOf = .ok f) (nonempty : f.isEmpty = false) :
    ∃ (d : Derivation .any) (q : Query .any) (e : Expression Term),
      d.tokens = tokens text ∧ d.query rate none = .ok q ∧ f = q.fragment ∧
      Sql.read (q.terms.map fun t => t.fragment.sql) f.sql =
        some (e.map fun t => t.fragment.sql) ∧
      e.operands = q.terms ∧
      (∀ value : Term → Truth, e.eval value = d.eval rate value) ∧
      ∀ t ∈ q.terms, ∃ inside : String, t.fragment.sql = "(" ++ inside ++ ")" ∧
        ∀ rest, span .start (inside.toList ++ ')' :: rest) = some (inside.toList, rest) := by
  obtain ⟨_ | q, parses, rfl⟩ := map_eq_ok_iff.1 compiles
  next =>
    simp [conditionOf, Fragment.isEmpty, Fragment.empty] at nonempty
  next =>
    obtain ⟨d, tokens, -, stands⟩ := parse_eq_some_iff.1 parses
    have reads : ReadsBack (q.terms.map fun t => t.fragment.sql) q := by
      apply readsBack
      next =>
        intro t member
        exact List.mem_map.2 ⟨t, member, rfl⟩
      next =>
        intro s member
        obtain ⟨t, -, same⟩ := List.mem_map.1 member
        exact ⟨t, same⟩
    refine ⟨d, q, q.expression, tokens, stands, rfl, reads.read, operands_expression q, ?_, ?_⟩
    next =>
      intro value
      rw [eval_expression, eval_of_query stands]
      rfl
    next =>
      intro t _
      obtain ⟨inside, same, leads⟩ := t.fragment_enclosed
      exact ⟨inside, same, span_closed leads⟩

theorem read_condition_negated_group :
    ∃ (f : Fragment) (d : Derivation .any) (q : Query .any) (e : Expression Term),
      (compile 1 "-(a or b) c").map conditionOf = .ok f ∧ f.isEmpty = false ∧
      d.tokens = tokens "-(a or b) c" ∧ d.query 1 none = .ok q ∧ f = q.fragment ∧
      Sql.read (q.terms.map fun t => t.fragment.sql) f.sql =
        some (e.map fun t => t.fragment.sql) ∧
      e.operands = q.terms ∧
      (∀ value : Term → Truth, e.eval value = d.eval 1 value) ∧
      ∀ t ∈ q.terms, ∃ inside : String, t.fragment.sql = "(" ++ inside ++ ")" ∧
        ∀ rest, span .start (inside.toList ++ ')' :: rest) = some (inside.toList, rest) := by
  have names : compile 1 "-(a or b) c" = .ok (some (.only (.and (.one (.not (.group
      (.or (.only (.one (.term (.name "a" false)))) (.one (.term (.name "b" false)))))))
      (.term (.name "c" false))))) := by
    cbv
  have compiles := congrArg (Except.map conditionOf) names
  obtain ⟨d, q, e, read⟩ := read_condition 1 "-(a or b) c" compiles (isEmpty_fragment _)
  exact ⟨_, d, q, e, compiles, isEmpty_fragment _, read⟩

end CardCatalog.Query
