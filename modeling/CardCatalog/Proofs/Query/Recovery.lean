import CardCatalog.Proofs.Query.Placeholders
import CardCatalog.Proofs.Query.Precedence

/-!
What a condition tells of the query it is the text of. Main statement: queries with the same
condition hold of the same rows, however they are written.
-/

set_option autoImplicit false

namespace CardCatalog.Query

open Sql

theorem Comparison.sql_inj {c d : Comparison} : c.sql = d.sql ↔ c = d := by
  cases c <;> cases d <;> simp [Comparison.sql]

theorem anywhere_inj {s t : String} : anywhere s = anywhere t ↔ s = t := by
  simp [anywhere]

/-! ## Terms -/

theorem prefix_onFaces {opening : List Char} {f g : Fragment} {layouts : List Layout}
    (opens : opening.take 4 = ['(', ' ', '(', ' ']) (starts : opening.drop 4 <+: f.sql.toList) :
    opening <+: (Fragment.onFaces f g layouts).sql.toList := by
  obtain ⟨rest, same⟩ : ∃ rest, (Fragment.onFaces f g layouts).sql = "( ( " ++ (f.sql ++ rest) := by
    simp only [Fragment.onFaces, String.append_assoc]
    exact ⟨_, rfl⟩
  rw [same, ← List.take_append_drop 4 opening, opens]
  simpa using starts.trans (List.prefix_append _ _)

theorem prefix_onCard {opening : List Char} {f : Fragment}
    (opens : opening.take 2 = ['(', ' ']) (starts : opening.drop 2 <+: f.sql.toList) :
    opening <+: (Fragment.onCard f).sql.toList := by
  rw [← List.take_append_drop 2 opening, opens]
  simpa [Fragment.onCard, Fragment.group] using starts.trans (List.prefix_append _ _)

theorem prefix_setComparisonSql (fns : SetFunctions) (column : String) (c : Comparison) :
    ((if c = .differs then "NOT ( " else "( ") ++ (fns.size ++ ("(" ++ (column ++ (") " ++
      ((if c = .differs then Comparison.equal else c).sql ++ (" " ++ (fns.size ++
        "(lower(?")))))))).toList <+: (setComparisonSql fns column c).toList := by
  cases c <;> unfold setComparisonSql <;> simp

theorem prefix_typeSql (table : String) :
    ("(csv_in(lower(" ++ (table ++ ".subtypes), lower(?")).toList <+: (typeSql table).toList := by
  unfold typeSql
  simp

namespace Term

/-- The text of a term up to its first sign. -/
def front : Term → String
  | name .. => "( ( lower(v_name) "
  | text _ => "( ( lower(cards.text) "
  | column .setCode _ => "( lower(cards.setCode) "
  | column .format _ => "( lower(legalities.format) "
  | column .rarity _ => "( lower(cards.rarity) "
  | column .layout _ => "( lower(cards.layout) "
  | measure .cmc .. => "( cards.convertedManaCost "
  | measure .loyalty .. => "( CAST(cards.loyalty AS INTEGER) "
  | measure .power .. => "( ( CAST(cards.power AS INTEGER) "
  | measure .toughness .. => "( ( CAST(cards.toughness AS INTEGER) "
  | measure .year .. => "( CAST(strftime('%Y', DATE(sets.releaseDate)) AS INTEGER) "
  | price .. => "( (prices.price "
  | type _ => "( ( (csv_in(lower(cards.subtypes),"
  | colors .differs _ => "( ( NOT ( csv_len(colors_sp) "
  | colors _ _ => "( ( ( csv_len(colors_sp) "
  | mana .differs _ => "( ( NOT ( manacost_to_cmc(cards.manaCost) "
  | mana _ _ => "( ( ( manacost_to_cmc(cards.manaCost) "

/-- The first sign of a term; that of sets which differ is the one between their sizes. -/
def sign : Term → String
  | name _ false | text _ => "LIKE"
  | name _ true | column .. | colors .differs _ | mana .differs _ => "="
  | measure _ c _ | price c _ | colors c _ | mana c _ => c.sql
  | type _ => ""

/-- What stands between the first sign of a term and the placeholder after it. -/
def call : Term → String
  | name .. | text _ | column .. | type _ => "lower("
  | measure .. => ""
  | price .. => "round("
  | colors .. => "csv_len(lower("
  | mana .. => "manacost_to_cmc(lower("

/-- The value of every placeholder of a term. -/
def bound : Term → Param
  | name value true => .text value
  | name value false | text value => .text (anywhere value)
  | column _ value | type value | colors _ value | mana _ value => .text value
  | measure _ _ n => .int n
  | price _ amount => .real amount

def opening (t : Term) : String :=
  t.front ++ (t.sign ++ (" " ++ (t.call ++ "?")))

theorem fragment_name (value : String) (exact : Bool) : (name value exact).fragment =
    .onFaces
      (.ofValue ("lower(v_name) " ++ (name value exact).sign ++ " lower(?)")
        (name value exact).bound)
      (.ofValue ("lower(face.faceName) " ++ (name value exact).sign ++ " lower(?)")
        (name value exact).bound)
      Layout.multiFace := by
  cases exact <;> rfl

theorem opening_prefix (t : Term) : t.opening.toList <+: t.fragment.sql.toList := by
  -- Texts are compared by their characters, so that literals must not be joined before.
  cases t with
  | name value exact =>
    rw [fragment_name]
    apply prefix_onFaces <;> simp [-String.reduceAppend, opening, front, call, Fragment.ofValue]
  | text value =>
    apply prefix_onFaces <;>
      simp [-String.reduceAppend, opening, front, sign, call, Fragment.ofValue]
  | column c value =>
    cases c <;> apply prefix_onCard <;>
      simp [-String.reduceAppend, opening, front, sign, call, TextColumn.sql, Fragment.ofValue]
  | measure m c n =>
    cases m with
    | power | toughness =>
      apply prefix_onFaces <;>
        simp [-String.reduceAppend, opening, front, sign, call, integerSql, Fragment.ofValue]
    | cmc | loyalty | year =>
      apply prefix_onCard <;>
        simp [-String.reduceAppend, opening, front, sign, call, integerSql, Fragment.ofValue]
  | price c amount =>
    apply prefix_onCard <;>
      simp [-String.reduceAppend, opening, front, sign, call, Fragment.ofValue]
  | type value =>
    have starts := prefix_typeSql "cards"
    refine prefix_onFaces (by simp [-String.reduceAppend, opening, front]) ?_
    simpa [-String.reduceAppend, opening, front, sign, call, Fragment.ofValue] using starts
  | colors c tags =>
    have starts := prefix_setComparisonSql colorFunctions "colors_sp" c
    cases c <;> refine prefix_onFaces (by simp [-String.reduceAppend, opening, front]) ?_ <;>
      simpa [-String.reduceAppend, opening, front, sign, call, colorFunctions, Comparison.sql,
        Fragment.ofValue] using starts
  | mana c cost =>
    have starts := prefix_setComparisonSql manaFunctions "cards.manaCost" c
    cases c <;> refine prefix_onFaces (by simp [-String.reduceAppend, opening, front]) ?_ <;>
      simpa [-String.reduceAppend, opening, front, sign, call, manaFunctions, Comparison.sql,
        Fragment.ofValue] using starts

-- The fronts differ within as many characters as the shortest of them has.
theorem front_eq {t u : Term} (same : t.front.toList.take 16 = u.front.toList.take 16) :
    t.front = u.front := by
  unfold front at same ⊢
  split at same <;> split at same <;> first | rfl | simp at same

theorem length_front (t : Term) : 16 ≤ t.front.toList.length := by
  unfold front
  split <;> simp

theorem sign_unspaced (t : Term) : ∀ c ∈ t.sign.toList, c ≠ ' ' := by
  have signs (c : Comparison) : ∀ d ∈ c.sql.toList, d ≠ ' ' := by
    cases c <;> simp [Comparison.sql]
  unfold sign
  split <;> first | exact signs _ | simp

theorem takeWhile_sign (t : Term) (rest : List Char) :
    (t.sign.toList ++ ' ' :: rest).takeWhile (fun c => c ≠ ' ') = t.sign.toList := by
  have all : ∀ c ∈ t.sign.toList, decide (c ≠ ' ') = true := by
    simpa using t.sign_unspaced
  rw [List.takeWhile_append_of_pos all, List.takeWhile_cons_of_neg (by simp), List.append_nil]

theorem front_sign_eq {t u : Term} (same : t.fragment.sql = u.fragment.sql) :
    t.front = u.front ∧ t.sign = u.sign := by
  obtain ⟨rest, ends⟩ := t.opening_prefix
  obtain ⟨others, ends'⟩ := u.opening_prefix
  have texts : t.front.toList ++ (t.sign.toList ++ ' ' :: ((t.call ++ "?").toList ++ rest)) =
      u.front.toList ++ (u.sign.toList ++ ' ' :: ((u.call ++ "?").toList ++ others)) := by
    rw [same, ← ends'] at ends
    simpa [opening] using ends
  have fronts : t.front = u.front := by
    have taken := congrArg (List.take 16) texts
    rw [List.take_append_of_le_length t.length_front,
      List.take_append_of_le_length u.length_front] at taken
    exact front_eq taken
  rw [fronts, List.append_cancel_left_eq] at texts
  -- Signs hold no blank and are followed by one.
  have signs := congrArg (List.takeWhile fun c => c ≠ ' ') texts
  rw [takeWhile_sign, takeWhile_sign] at signs
  exact ⟨fronts, String.toList_inj.1 signs⟩

theorem eq_bound_of_mem {t : Term} {p : Param} (member : p ∈ t.fragment.params) :
    p = t.bound := by
  have values {sql other : String} {value : Param} {layouts : List Layout}
      (member : p ∈ (Fragment.onFaces (.ofValue sql value) (.ofValue other value) layouts).params) :
      p = value := by
    rcases List.mem_append.1 member with member | member <;> exact List.eq_of_mem_replicate member
  cases t with
  | name value exact => cases exact <;> exact values member
  | text | type | colors | mana => exact values member
  | column | price => exact List.eq_of_mem_replicate member
  | measure m =>
    cases m with
    | power | toughness => exact values member
    | cmc | loyalty | year => exact List.eq_of_mem_replicate member

theorem front_leads (t : Term) : ∃ n, Leads t.front .start ⟨n, false, 0⟩ := by
  unfold front
  split
  all_goals first
    | exact ⟨1, .ofList (by decide)⟩
    | exact ⟨2, .ofList (by decide)⟩
    | exact ⟨3, .ofList (by decide)⟩
    | exact ⟨4, .ofList (by decide)⟩

theorem sign_plain (t : Term) : Plain t.sign := by
  unfold sign
  split <;> first | exact Comparison.sql_plain _ | exact .ofList (by decide)

theorem call_leads (t : Term) : ∃ n, Leads t.call .start ⟨n, false, 0⟩ := by
  unfold call
  split
  all_goals first
    | exact ⟨0, .ofList (by decide)⟩
    | exact ⟨1, .ofList (by decide)⟩
    | exact ⟨2, .ofList (by decide)⟩

theorem opening_leads (t : Term) : ∃ n, Leads t.opening .start ⟨n, false, 1⟩ := by
  have blank : Plain " " := .ofList (by decide)
  have mark : Leads "?" .start ⟨0, false, 1⟩ := .ofList (by decide)
  obtain ⟨n, front⟩ := t.front_leads
  obtain ⟨m, call⟩ := t.call_leads
  have called := (call.after n 0).append (mark.after (n + m) 0)
  exact ⟨_, front.append ((t.sign_plain.leads n 0).append ((blank.leads n 0).append called))⟩

theorem params_ne_nil (t : Term) : t.fragment.params ≠ [] := by
  obtain ⟨rest, ends⟩ := t.opening_prefix
  obtain ⟨n, leads⟩ := t.opening_leads
  have text : t.fragment.sql = t.opening ++ String.ofList rest := by
    rw [← String.toList_inj, String.toList_append, String.toList_ofList, ends]
  have count := t.fragment_enclosed.closed.placeholders
  rw [Fragment.placeholders, text, leads.count_append, leads.count] at count
  intro none
  simp [none] at count

theorem eq_of_parts {t u : Term} (fronts : t.front = u.front) (signs : t.sign = u.sign)
    (values : t.bound = u.bound) : t = u := by
  fun_cases front t <;> fun_cases front u
  case case1.case1 value exact value' exact' =>
    cases exact <;> cases exact' <;> simp_all [sign, bound, anywhere_inj]
  all_goals first
    | (simp [front] at fronts; done)
    | simp_all [sign, bound, Comparison.sql_inj, anywhere_inj]

/-- A term is known from its text and its values. -/
theorem eq_of_fragment {t u : Term} (text : t.fragment.sql = u.fragment.sql)
    (values : t.fragment.params = u.fragment.params) : t = u := by
  obtain ⟨fronts, signs⟩ := front_sign_eq text
  obtain ⟨p, member⟩ := List.exists_mem_of_ne_nil _ t.params_ne_nil
  have left := eq_bound_of_mem member
  rw [values] at member
  exact eq_of_parts fronts signs (left.symm.trans (eq_bound_of_mem member))

end Term

/-! ## Queries -/

theorem length_paramsOf_eq {e f : Expression Term}
    (texts : (e.map fun t => t.fragment.sql) = f.map fun t => t.fragment.sql) :
    (paramsOf e.operands).length = (paramsOf f.operands).length := by
  induction e generalizing f with
  | operand t =>
    cases f <;> simp only [Expression.map, Expression.operand.injEq, reduceCtorEq] at texts
    next u =>
      have left := t.fragment_enclosed.closed.placeholders
      have right := u.fragment_enclosed.closed.placeholders
      rw [Fragment.placeholders, texts] at left
      simpa [paramsOf, Expression.operands] using left.symm.trans right
  | not e ih =>
    cases f <;> simp only [Expression.map, Expression.not.injEq, reduceCtorEq] at texts
    have shorter := ih texts
    exact shorter
  | and e g ihe ihg | or e g ihe ihg =>
    cases f <;> simp only [Expression.map, Expression.and.injEq, Expression.or.injEq,
      reduceCtorEq] at texts
    simp only [Expression.operands, paramsOf_append, List.length_append, ihe texts.1, ihg texts.2]

/-- An expression is known from the texts of its terms and from their values in order. -/
theorem expression_eq {e f : Expression Term}
    (texts : (e.map fun t => t.fragment.sql) = f.map fun t => t.fragment.sql)
    (params : paramsOf e.operands = paramsOf f.operands) : e = f := by
  induction e generalizing f with
  | operand t =>
    cases f <;> simp only [Expression.map, Expression.operand.injEq, reduceCtorEq] at texts
    next u =>
      have values : t.fragment.params = u.fragment.params := by
        simpa [paramsOf, Expression.operands] using params
      rw [Term.eq_of_fragment texts values]
  | not e ih =>
    cases f <;> simp only [Expression.map, Expression.not.injEq, reduceCtorEq] at texts
    rw [ih texts params]
  | and e g ihe ihg | or e g ihe ihg =>
    cases f <;> simp only [Expression.map, Expression.and.injEq, Expression.or.injEq,
      reduceCtorEq] at texts
    simp only [Expression.operands, paramsOf_append] at params
    -- The values of the left side end where its text says.
    obtain ⟨left, right⟩ := List.append_inj params (length_paramsOf_eq texts.1)
    rw [ihe texts.1 left, ihg texts.2 right]

/-- Queries with the same condition are the same but for groups that change nothing. -/
theorem expression_eq_of_fragment_eq {p q : Query .any} (same : p.fragment = q.fragment) :
    p.expression = q.expression := by
  have texts : p.sqlExpression = q.sqlExpression := by
    have left := (readsBack_of_terms (List.subset_append_left p.terms q.terms)).read
    have right := (readsBack_of_terms (List.subset_append_right p.terms q.terms)).read
    rw [same, right] at left
    exact (Option.some.inj left).symm
  refine expression_eq texts ?_
  rw [operands_expression, operands_expression, ← params_fragment, ← params_fragment, same]

theorem eval_eq_of_fragment_eq {p q : Query .any} (same : p.fragment = q.fragment)
    (value : Term → Truth) : p.eval value = q.eval value := by
  rw [← eval_expression, ← eval_expression, expression_eq_of_fragment_eq same]

end CardCatalog.Query
