import CardCatalog.Proofs.Query.Nesting
import CardCatalog.Proofs.Query.Parsing
import CardCatalog.Proofs.Query.Viability

/-!
How the reader gets to a term within a derivation. Main statement: the tokens before the term
lead it there, deeper by the negations and groups around the term, unless the reader fails at what
they say.
-/

set_option autoImplicit false

namespace CardCatalog.Query

/-! ## Errors that a grammatical list can have -/

/-- Whether the tokens themselves, and not what they say, are wrong. -/
def QueryError.isSyntactic : QueryError → Bool
  | unexpectedToken _ _ | unexpectedEnd => true
  | _ => false

section

variable {rate : Float} {e : QueryError}

theorem Term.isSyntactic_of_ofKeyword {word value : String} {operator : Operator} {exact : Bool}
    (rejects : Term.ofKeyword rate word operator exact value = .error e) :
    e.isSyntactic = false := by
  unfold Term.ofKeyword at rejects
  repeat' split at rejects
  all_goals cases rejects
  all_goals rfl

theorem Leaf.isSyntactic_of_term {l : Leaf} (rejects : l.term rate = .error e) :
    e.isSyntactic = false := by
  cases l with
  | name text | exactName mark text => cases rejects
  | equality word sign equal mark value => exact Term.isSyntactic_of_ofKeyword rejects
  | comparison word sign unequal value => exact Term.isSyntactic_of_ofKeyword rejects

theorem Derivation.isSyntactic_of_read {r : Rank} {d : Derivation r} {n : Nat}
    {left : Option (Query r)} (fails : d.read rate n left = .error e) : e.isSyntactic = false := by
  induction d generalizing n with
  | leaf l => exact Leaf.isSyntactic_of_term (map_eq_error_iff.1 fails)
  | not sign d ih | group opening d closing ih =>
    simp only [read, nested] at fails
    split at fails
    next =>
      cases fails
      rfl
    next => exact ih (map_eq_error_iff.1 fails)
  | last d ih | only d ih => exact ih (map_eq_error_iff.1 fails)
  | and d rest ih restIh | or d sign rest ih restIh =>
    rcases bind_eq_error_iff.1 fails with first | ⟨q, -, others⟩
    next => exact ih first
    next => exact restIh others

end

/-! ## The way to a term -/

theorem Derivation.Contains.starts {r : Rank} {d : Derivation r} {e : Derivation .single}
    {ts : List Token} {n : Nat} (contains : d.Contains ts n e) :
    ∀ t ∈ ts.head?, startsTerm t.kind = true := by
  obtain ⟨rest, same⟩ := contains.exists_tokens
  obtain ⟨t, more, tokens, starts⟩ := d.exists_head
  cases ts with
  | nil => simp
  | cons u ts =>
    have head : u = t := by simp_all
    simpa [head] using starts

namespace Parser

section

variable {rate : Float} {p q : Parser} {ts us : List Token} {e : QueryError}

theorem finish_eq_error (fails : p.finish = .error e) : e = .unexpectedEnd := by
  unfold finish at fails
  split at fails <;> simp_all

theorem run_append : p.run rate (ts ++ us) = (p.run rate ts).bind fun q => q.run rate us := by
  induction ts generalizing p with
  | nil => rfl
  | cons t ts ih =>
    simp only [List.cons_append, run]
    cases p.step rate t with
    | ok next => exact ih
    | error e => rfl

theorem outcome_append (runs : p.run rate ts = .ok q) :
    p.outcome rate (ts ++ us) = q.outcome rate us := by
  simp only [outcome, run_append, runs, bind_ok]

theorem eq_end_of_outcome (runs : p.run rate ts = .ok q) (fails : p.outcome rate ts = .error e) :
    e = .unexpectedEnd := by
  simp only [outcome, runs, bind_ok] at fails
  exact finish_eq_error fails

/-- The reader either fails at what the tokens say, or they lead it to the start of a term, `n`
levels deeper. -/
def Reaches (rate : Float) (p : Parser) (ts : List Token) (n : Nat) : Prop :=
  (∃ e : QueryError, e.isSyntactic = false ∧ p.outcome rate ts = .error e) ∨
  ∃ enclosing before, depth ⟨enclosing, .term before⟩ = p.depth + n ∧
    ∀ t rest, startsTerm t.kind = true →
      p.outcome rate (ts ++ t :: rest) = outcome rate ⟨enclosing, .term before⟩ (t :: rest)

theorem Reaches.prepend {m n : Nat} (reaches : q.Reaches rate ts n)
    (starts : ∀ t ∈ ts.head?, startsTerm t.kind = true) (deeper : q.depth = p.depth + m)
    (same : ∀ t rest, startsTerm t.kind = true →
      p.outcome rate (us ++ t :: rest) = q.outcome rate (t :: rest)) :
    p.Reaches rate (us ++ ts) (m + n) := by
  rcases reaches with ⟨e, meant, fails⟩ | ⟨enclosing, before, depths, leads⟩
  next =>
    cases ts with
    | nil =>
      -- Without a token the reader can only fail at the end, which is not what tokens say.
      rw [outcome_nil] at fails
      rw [finish_eq_error fails] at meant
      cases meant
    | cons u ts => exact .inl ⟨e, meant, (same u ts (starts u rfl)).trans fails⟩
  next =>
    refine .inr ⟨enclosing, before, by omega, fun t rest first => ?_⟩
    rw [← leads t rest first, List.append_assoc]
    cases ts with
    | nil => exact same t rest first
    | cons u ts => exact same u (ts ++ t :: rest) (starts u rfl)

theorem reaches_of_nested {n : Nat} {sign : Token}
    (starts : ∀ t ∈ ts.head?, startsTerm t.kind = true) (deeper : q.depth = p.depth + 1)
    (opens : ∀ rest, p.outcome rate (sign :: rest) = nested p.depth sign (q.outcome rate rest))
    (reaches : q.Reaches rate ts n) : p.Reaches rate (sign :: ts) (n + 1) := by
  by_cases full : maxNesting ≤ p.depth
  next => exact .inl ⟨.tooDeep maxNesting sign.offset, rfl, by simp [opens, nested, full]⟩
  next =>
    rw [Nat.add_comm, ← List.singleton_append]
    refine reaches.prepend starts deeper fun t rest _ => ?_
    simp [opens, nested, full]

end

theorem stops_of_starts {ts : List Token} (starts : ∀ t ∈ ts.head?, startsTerm t.kind = true) :
    Stops .single ts := by
  intro t member
  simp [continues, ofKind?_of_startsTerm (starts t member)]

theorem reaches (rate : Float) {r : Rank} {d : Derivation r} {e : Derivation .single}
    {ts : List Token} {n : Nat} (contains : d.Contains ts n e) (enclosing : List Before)
    (before : Before) (unnegated : r = .single ∨ before.negations = 0) :
    Reaches rate ⟨enclosing, .term before⟩ ts n := by
  -- By induction on where the term stands. Negations stand right before a single term, so what
  -- starts a list of terms has none before it.
  induction contains generalizing enclosing before with
  | self e => exact .inr ⟨enclosing, before, rfl, fun _ _ _ => rfl⟩
  | not sign inside ih =>
    exact reaches_of_nested inside.starts (depth_negated enclosing before)
      (fun rest => outcome_not sign)
      (ih enclosing { before with negations := before.negations + 1 } (.inl rfl))
  | group opening closing inside ih =>
    exact reaches_of_nested inside.starts (depth_opened enclosing before)
      (fun rest => outcome_openParen opening) (ih (before :: enclosing) .start (.inr rfl))
  | last _ ih | and rest _ ih => exact ih enclosing before (.inl rfl)
  | only _ ih | or sign rest _ ih =>
    exact ih enclosing before (.inr (unnegated.resolve_left (by simp)))
  | @andRest d rest e ts n inside ih =>
    obtain ⟨alternatives, conditions, negations⟩ := before
    obtain rfl : negations = 0 := unnegated.resolve_left (by simp)
    have first (rest : List Token) (stops : Stops .single rest) :=
      follows rate d enclosing ⟨alternatives, conditions, 0⟩ rest stops
    -- The reader goes past the term in front, or fails within it.
    cases reads : d.read rate (depth ⟨enclosing, .term ⟨alternatives, conditions, 0⟩⟩) none with
    | error e =>
      refine .inl ⟨e, Derivation.isSyntactic_of_read reads, ?_⟩
      simp only [first _ (stops_of_starts inside.starts), reads, bind_error]
    | ok q =>
      rw [← Nat.zero_add n]
      refine (ih enclosing ⟨alternatives, some (andAfter conditions q), 0⟩ (.inr rfl)).prepend
        inside.starts rfl fun t rest starts => ?_
      have stops : Stops .single (t :: rest) := stops_of_starts (by simpa using starts)
      simp only [first _ stops, reads, bind_ok, Before.add_unnegated, outcome_after starts]
  | @orRest d sign rest e ts n inside ih =>
    obtain ⟨alternatives, conditions, negations⟩ := before
    obtain rfl : negations = 0 := unnegated.resolve_left (by simp)
    have first (rest : List Token) :=
      follows rate d enclosing alternatives conditions (sign.val :: rest)
        (by simp [continues, sign.property, Operator.ofKind?])
    cases reads : d.read rate (depth ⟨enclosing, .term .start⟩) conditions with
    | error e =>
      refine .inl ⟨e, Derivation.isSyntactic_of_read reads, ?_⟩
      simp only [first, reads, bind_error]
    | ok q =>
      rw [← Nat.zero_add n, List.append_cons]
      refine (ih enclosing ⟨some (After.query ⟨alternatives, q⟩), none, 0⟩ (.inr rfl)).prepend
        inside.starts rfl fun t rest _ => ?_
      simp only [List.append_assoc, List.cons_append, List.nil_append, first, reads, bind_ok,
        outcome_or]

end Parser

end CardCatalog.Query
