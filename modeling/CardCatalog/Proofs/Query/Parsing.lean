import CardCatalog.Proofs.Except
import CardCatalog.Proofs.Query.Spelling

/-!
Reading a search text against its grammar. The reader gets through the tokens of a derivation in
the way in which the derivation itself is read, so it accepts a list of tokens exactly if the list
has a derivation that nests no deeper than allowed and whose keyword terms are all accepted.
-/

set_option autoImplicit false

namespace CardCatalog.Query

/-- Reads what stands within a negation or a group that `n` others stand around. -/
def nested {α : Type} (n : Nat) (sign : Token) (inner : Except QueryError α) :
    Except QueryError α :=
  if maxNesting ≤ n then .error (.tooDeep maxNesting sign.offset) else inner

theorem nested_eq_ok_iff {α : Type} {n : Nat} {sign : Token} {inner : Except QueryError α}
    {a : α} : nested n sign inner = .ok a ↔ n < maxNesting ∧ inner = .ok a := by
  by_cases full : maxNesting ≤ n
  · simp [nested, full, Nat.not_lt.2 full]
  · simp [nested, full, Nat.lt_of_not_le full]

theorem nested_bind {α β : Type} (n : Nat) (sign : Token) (inner : Except QueryError α)
    (f : α → Except QueryError β) :
    (nested n sign inner).bind f = nested n sign (inner.bind f) := by
  by_cases full : maxNesting ≤ n <;> simp [nested, full]

namespace Derivation

/-- What reading a derivation from left to right comes to when `n` negations and groups stand
around it: its query, or the first fault in it. -/
def read (rate : Float) {r : Rank} (n : Nat) (left : Option (Query r)) :
    Derivation r → Except QueryError (Query r)
  | leaf l => (l.term rate).map .term
  | not sign d => nested n sign.val ((d.read rate (n + 1) none).map .not)
  | group opening d _ => nested n opening.val ((d.read rate (n + 1) none).map .group)
  | last d => (d.read rate n none).map (andAfter left)
  | and d rest =>
    (d.read rate n none).bind fun q => rest.read rate n (some (andAfter left q))
  | only d => (d.read rate n none).map (orAfter left)
  | or d _ rest =>
    (d.read rate n none).bind fun q => rest.read rate n (some (orAfter left q))

theorem read_eq_ok_iff {rate : Float} {r : Rank} {d : Derivation r} {n : Nat}
    {left : Option (Query r)} {q : Query r} (bound : n ≤ maxNesting) :
    d.read rate n left = .ok q ↔ n + d.depth ≤ maxNesting ∧ d.query rate left = .ok q := by
  induction d generalizing n with
  | leaf l => simp [read, query, depth, bound]
  | not sign d ih | group opening d closing ih =>
    by_cases room : n < maxNesting
    · have inner : n + 1 + d.depth = n + (d.depth + 1) := by omega
      simp only [read, query, depth, nested_eq_ok_iff, map_eq_ok_iff, ih room, inner]
      grind
    · have deep : ¬ n + (d.depth + 1) ≤ maxNesting := by omega
      simp [read, nested_eq_ok_iff, room, depth, deep]
  | last d ih | only d ih =>
    simp only [read, query, depth, map_eq_ok_iff, ih bound]
    grind
  | and d rest ih restIh | or d sign rest ih restIh =>
    have deepest : n + max d.depth rest.depth ≤ maxNesting ↔
        n + d.depth ≤ maxNesting ∧ n + rest.depth ≤ maxNesting := by omega
    simp only [read, query, depth, bind_eq_ok_iff, ih bound, restIh bound, deepest]
    grind

end Derivation

/-! ## What the reader holds -/

/-- The place after the whole of a query. -/
def After.ofQuery : Query .any → After
  | .only p => ⟨none, p⟩
  | .or p q => ⟨some p, q⟩

@[simp]
theorem After.query_ofQuery (q : Query .any) : (ofQuery q).query = q := by
  cases q <;> rfl

theorem After.ofQuery_orAfter (left : Option (Query .any)) (q : Query .all) :
    ofQuery (orAfter left q) = ⟨left, q⟩ := by
  cases left <;> rfl

namespace Parser

/-- What reading the tokens to their end comes to. -/
def outcome (rate : Float) (p : Parser) (ts : List Token) : Except QueryError (Query .any) :=
  (p.run rate ts).bind finish

@[simp]
theorem outcome_nil (rate : Float) (p : Parser) : p.outcome rate [] = p.finish := rfl

theorem outcome_cons (rate : Float) (p : Parser) (t : Token) (ts : List Token) :
    p.outcome rate (t :: ts) = (p.step rate t).bind fun next => next.outcome rate ts := by
  simp only [outcome, run]
  cases p.step rate t <;> rfl

theorem parse_cons (rate : Float) (t : Token) (ts : List Token) :
    parse rate (t :: ts) = (start.outcome rate (t :: ts)).map some := by
  simp only [parse, outcome]
  cases start.run rate (t :: ts) <;> rfl

theorem depth_term (enclosing : List Before) (before : Before) :
    depth ⟨enclosing, .term before⟩ =
      before.negations + enclosing.foldr (fun b depth => b.negations + 1 + depth) 0 := rfl

theorem outcome_word {rate : Float} {enclosing : List Before} {before : Before} {word : Token}
    {rest : List Token} (stops : Stops .single rest) :
    outcome rate ⟨enclosing, .word before word⟩ rest =
      outcome rate ⟨enclosing, .after (before.add (.term (.name word.text false)))⟩ rest := by
  cases rest with
  | nil => cases enclosing <;> rfl
  | cons t rest =>
    have noOperator : Operator.ofKind? t.kind = none := by simpa [continues] using stops
    simp [outcome_cons, step, noOperator]

theorem outcome_after {rate : Float} {enclosing : List Before} {after : After} {t : Token}
    {rest : List Token} (starts : startsTerm t.kind = true) :
    outcome rate ⟨enclosing, .after after⟩ (t :: rest) =
      outcome rate ⟨enclosing, .term ⟨after.alternatives, some after.conditions, 0⟩⟩
        (t :: rest) := by
  simp only [outcome_cons, step, continueAfter]
  split <;> simp_all [startsTerm]

theorem outcome_finishKeyword {rate : Float} {enclosing : List Before} {before : Before}
    {word value : Token} {operator : Operator} {exact : Bool} {rest : List Token} :
    (finishKeyword rate enclosing before word operator exact value).bind
        (fun next => next.outcome rate rest) =
      (Term.ofKeyword rate word.text operator exact value.text).bind fun t =>
        outcome rate ⟨enclosing, .after (before.add (.term t))⟩ rest := by
  simp only [finishKeyword]
  cases Term.ofKeyword rate word.text operator exact value.text <;> rfl

theorem outcome_leaf {rate : Float} {enclosing : List Before} {before : Before} {rest : List Token}
    (l : Leaf) (stops : Stops .single rest) :
    outcome rate ⟨enclosing, .term before⟩ (l.tokens ++ rest) =
      (l.term rate).bind fun t =>
        outcome rate ⟨enclosing, .after (before.add (.term t))⟩ rest := by
  cases l with
  | name text =>
    rcases (isValue_iff _).1 text.property with word | quoted
    · simp [Leaf.tokens, Leaf.term, outcome_cons, step, startTerm, word, outcome_word stops]
    · simp [Leaf.tokens, Leaf.term, outcome_cons, step, startTerm, quoted]
  | exactName mark text =>
    simp [Leaf.tokens, Leaf.term, outcome_cons, step, startTerm, mark.property, text.property]
  | equality word sign equal mark value =>
    have noMark : value.val.kind ≠ .bang := by
      intro bang
      have := value.property
      simp [bang, isValue] at this
    cases mark with
    | none =>
      simp [Leaf.tokens, Leaf.term, outcome_cons, step, startTerm, word.property, sign.reads,
        equal, noMark, value.property, outcome_finishKeyword]
    | some mark =>
      simp [Leaf.tokens, Leaf.term, outcome_cons, step, startTerm, word.property, sign.reads,
        equal, mark.property, noMark, value.property, outcome_finishKeyword]
  | comparison word sign unequal value =>
    simp [Leaf.tokens, Leaf.term, outcome_cons, step, startTerm, word.property, sign.reads,
      unequal, value.property, outcome_finishKeyword]

theorem outcome_not {rate : Float} {enclosing : List Before} {before : Before} {rest : List Token}
    (sign : Sign .not) :
    outcome rate ⟨enclosing, .term before⟩ (sign.val :: rest) =
      nested (depth ⟨enclosing, .term before⟩) sign.val
        (outcome rate
          ⟨enclosing, .term { before with negations := before.negations + 1 }⟩ rest) := by
  by_cases full : maxNesting ≤ depth ⟨enclosing, .term before⟩ <;>
    simp [outcome_cons, step, startTerm, sign.property, nested, full]

theorem outcome_openParen {rate : Float} {enclosing : List Before} {before : Before}
    {rest : List Token} (opening : Sign .openParen) :
    outcome rate ⟨enclosing, .term before⟩ (opening.val :: rest) =
      nested (depth ⟨enclosing, .term before⟩) opening.val
        (outcome rate ⟨before :: enclosing, .term .start⟩ rest) := by
  by_cases full : maxNesting ≤ depth ⟨enclosing, .term before⟩ <;>
    simp [outcome_cons, step, startTerm, opening.property, nested, full]

theorem outcome_closeParen {rate : Float} {enclosing : List Before} {before : Before}
    {after : After} {rest : List Token} (closing : Sign .closeParen) :
    outcome rate ⟨before :: enclosing, .after after⟩ (closing.val :: rest) =
      outcome rate ⟨enclosing, .after (before.add (.group after.query))⟩ rest := by
  simp [outcome_cons, step, continueAfter, closing.property]

theorem outcome_or {rate : Float} {enclosing : List Before} {after : After} {rest : List Token}
    (sign : Sign .or) :
    outcome rate ⟨enclosing, .after after⟩ (sign.val :: rest) =
      outcome rate ⟨enclosing, .term ⟨some after.query, none, 0⟩⟩ rest := by
  simp [outcome_cons, step, continueAfter, sign.property]

/-- The reader gets through the tokens of a derivation as the derivation is read. -/
def Follows (rate : Float) : {r : Rank} → Derivation r → Prop
  | .single, d => ∀ enclosing before rest, Stops .single rest →
    outcome rate ⟨enclosing, .term before⟩ (d.tokens ++ rest) =
      (d.read rate (depth ⟨enclosing, .term before⟩) none).bind fun q =>
        outcome rate ⟨enclosing, .after (before.add q)⟩ rest
  | .all, d => ∀ enclosing alternatives conditions rest, Stops .single rest →
    outcome rate ⟨enclosing, .term ⟨alternatives, conditions, 0⟩⟩ (d.tokens ++ rest) =
      (d.read rate (depth ⟨enclosing, .term .start⟩) conditions).bind fun q =>
        outcome rate ⟨enclosing, .after ⟨alternatives, q⟩⟩ rest
  | .any, d => ∀ enclosing alternatives rest, Stops .single rest →
    outcome rate ⟨enclosing, .term ⟨alternatives, none, 0⟩⟩ (d.tokens ++ rest) =
      (d.read rate (depth ⟨enclosing, .term .start⟩) alternatives).bind fun q =>
        outcome rate ⟨enclosing, .after (.ofQuery q)⟩ rest

theorem follows (rate : Float) {r : Rank} (d : Derivation r) : Follows rate d := by
  induction d with
  | leaf l =>
    intro enclosing before rest stops
    simp only [Derivation.tokens, Derivation.read, outcome_leaf l stops, bind_map]
  | not sign d ih =>
    intro enclosing before rest stops
    have inner := ih enclosing { before with negations := before.negations + 1 } rest stops
    have negated (q : Query .single) :
        { before with negations := before.negations + 1 }.add q = before.add (.not q) :=
      Before.add_not _ _ _ q
    have depths : depth ⟨enclosing, .term { before with negations := before.negations + 1 }⟩ =
        depth ⟨enclosing, .term before⟩ + 1 := by
      simp only [depth_term]
      omega
    simp only [Derivation.tokens, Derivation.read, List.cons_append, outcome_not, inner, depths,
      negated, nested_bind, bind_map]
  | group opening d closing ih =>
    intro enclosing before rest stops
    have inner := ih (before :: enclosing) none (closing.val :: rest)
      (by simp [continues, closing.property, Operator.ofKind?])
    have depths : depth ⟨before :: enclosing, .term .start⟩ =
        depth ⟨enclosing, .term before⟩ + 1 := by
      simp only [depth_term, Before.start, List.foldr_cons]
      omega
    simp only [depths, outcome_closeParen, After.query_ofQuery] at inner
    simp only [Derivation.tokens, Derivation.read, List.cons_append, List.append_assoc,
      List.nil_append, outcome_openParen, Before.start, inner, nested_bind, bind_map]
  | last d ih =>
    intro enclosing alternatives conditions rest stops
    have single := ih enclosing ⟨alternatives, conditions, 0⟩ rest stops
    simp only [Before.add_unnegated] at single
    simp only [Derivation.tokens, Derivation.read, bind_map]
    exact single
  | and d more ih moreIh =>
    intro enclosing alternatives conditions rest stops
    have single := ih enclosing ⟨alternatives, conditions, 0⟩ (more.tokens ++ rest)
      (more.stops_single rest)
    have others (q : Query .all) := moreIh enclosing alternatives (some q) rest stops
    have next (q : Query .all) : outcome rate ⟨enclosing, .after ⟨alternatives, q⟩⟩
        (more.tokens ++ rest) = outcome rate ⟨enclosing, .term ⟨alternatives, some q, 0⟩⟩
        (more.tokens ++ rest) := by
      obtain ⟨t, others, tokens, starts⟩ := more.exists_head
      rw [tokens]
      exact outcome_after starts
    simp only [Derivation.tokens, Derivation.read, bind_assoc, List.append_assoc, single,
      Before.add_unnegated, next, others]
    rfl
  | only d ih =>
    intro enclosing alternatives rest stops
    have combination := ih enclosing alternatives none rest stops
    simp only [Derivation.tokens, Derivation.read, bind_map, After.ofQuery_orAfter]
    exact combination
  | or d sign more ih moreIh =>
    intro enclosing alternatives rest stops
    have combination := ih enclosing alternatives none (sign.val :: (more.tokens ++ rest))
      (by simp [continues, sign.property, Operator.ofKind?])
    have others (q : Query .any) := moreIh enclosing (some q) rest stops
    simp only [Derivation.tokens, Derivation.read, bind_assoc, List.append_assoc, List.cons_append,
      combination, outcome_or, others]
    rfl

end Parser

/-! ## The accepted search texts -/

theorem parse_tokens (rate : Float) (d : Derivation .any) :
    parse rate d.tokens = (d.read rate 0 none).map some := by
  obtain ⟨t, rest, tokens, -⟩ := d.exists_head
  have whole := Parser.follows rate d [] none [] (stops_nil .single)
  simp only [List.append_nil, Parser.outcome_nil, Parser.finish, After.query_ofQuery] at whole
  rw [tokens, Parser.parse_cons, ← tokens]
  change (Parser.outcome rate ⟨[], .term ⟨none, none, 0⟩⟩ d.tokens).map some = _
  rw [whole, Parser.depth_term]
  change ((d.read rate 0 none).bind .ok).map some = _
  cases d.read rate 0 none <;> rfl

theorem exists_derivation_of_parse {rate : Float} {ts : List Token} {q : Query .any}
    (parses : parse rate ts = .ok (some q)) : ∃ d : Derivation .any, d.tokens = ts := by
  cases ts with
  | nil => simp [parse] at parses
  | cons t ts =>
    rw [Parser.parse_cons, map_eq_ok_iff] at parses
    obtain ⟨q, outcome, -⟩ := parses
    obtain ⟨last, runs, finishes⟩ := bind_eq_ok_iff.1 outcome
    have start : Parser.start.Spells [] := .mk .nil (.term .start)
    exact (start.run runs).exists_derivation finishes

theorem parse_eq_some_iff {rate : Float} {ts : List Token} {q : Query .any} :
    parse rate ts = .ok (some q) ↔
      ∃ d : Derivation .any, d.tokens = ts ∧ d.depth ≤ maxNesting ∧ d.query rate none = .ok q := by
  have accepted (d : Derivation .any) : parse rate d.tokens = .ok (some q) ↔
      d.depth ≤ maxNesting ∧ d.query rate none = .ok q := by
    simp [parse_tokens, map_eq_ok_iff, Derivation.read_eq_ok_iff (Nat.zero_le _)]
  constructor
  · intro parses
    obtain ⟨d, rfl⟩ := exists_derivation_of_parse parses
    exact ⟨d, rfl, (accepted d).1 parses⟩
  · rintro ⟨d, rfl, reads⟩
    exact (accepted d).2 reads

theorem parse_eq_none_iff {rate : Float} {ts : List Token} :
    parse rate ts = .ok none ↔ ts = [] := by
  cases ts with
  | nil => simp [parse]
  | cons t ts => simp [Parser.parse_cons, map_eq_ok_iff]

/-- A list of tokens is accepted with a condition exactly if it is empty and so is the condition,
or its one derivation nests no deeper than allowed, has keyword terms that are all accepted, and
stands for a query with that condition. -/
theorem parse_eq_ok_iff_derivation (rate : Float) (ts : List Token) (f : Fragment) :
    ((parse rate ts).map conditionOf = .ok f ↔
      (ts = [] ∧ f = .empty) ∨
      ∃ d : Derivation .any, d.tokens = ts ∧ d.depth ≤ 128 ∧
        (d.query rate none).map Query.fragment = .ok f) ∧
    ∀ d d' : Derivation .any, d.tokens = ts → d'.tokens = ts → d = d' := by
  constructor
  · constructor
    · intro parses
      obtain ⟨_ | q, read, rfl⟩ := map_eq_ok_iff.1 parses
      · exact .inl ⟨parse_eq_none_iff.1 read, rfl⟩
      · obtain ⟨d, tokens, shallow, stands⟩ := parse_eq_some_iff.1 read
        exact .inr ⟨d, tokens, shallow, map_eq_ok_iff.2 ⟨q, stands, rfl⟩⟩
    · rintro (⟨rfl, rfl⟩ | ⟨d, tokens, shallow, stands⟩)
      · rfl
      · obtain ⟨q, denotes, rfl⟩ := map_eq_ok_iff.1 stands
        have read := parse_eq_some_iff.2 ⟨d, tokens, shallow, denotes⟩
        exact map_eq_ok_iff.2 ⟨some q, read, rfl⟩
  · intro d d' tokens tokens'
    exact Derivation.eq_of_tokens_eq (tokens.trans tokens'.symm)

end CardCatalog.Query
