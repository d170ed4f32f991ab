import CardCatalog.Proofs.Query.Reaching

/-!
Which fault of a search text is reported. A token is at fault when no query goes on with it, when
it nests too deeply, or when it completes a term that its keyword does not accept. Main statement:
the reader reports the fault of the first token that has one, and an early end only if no token
has a fault and the tokens are no query yet.
-/

set_option autoImplicit false

namespace CardCatalog.Query

/-- What is wrong with a token that stands after others. -/
inductive Fault (rate : Float) (before : List Token) (t : Token) : QueryError → Prop where
  | unexpected (viable : Viable before) (stuck : ¬ Viable (before ++ [t])) :
      Fault rate before t (.unexpectedToken t.text t.offset)
  /-- The token opens a negation or a group inside of 128 others. -/
  | tooDeep {d : Derivation .any} {e : Derivation .single} (contains : d.Contains before 128 e)
      (opens : e.tokens.head? = some t) (nests : t.kind = .not ∨ t.kind = .openParen) :
      Fault rate before t (.tooDeep 128 t.offset)
  /-- The token completes a keyword term. -/
  | rejected {d : Derivation .any} {ts : List Token} {n : Nat} {l : Leaf} {e : QueryError}
      (contains : d.Contains ts n (.leaf l)) (complete : ts ++ l.tokens = before ++ [t])
      (rejects : l.term rate = .error e) : Fault rate before t e

def Faultless (rate : Float) (ts : List Token) : Prop :=
  ∀ before t after e, ts = before ++ t :: after → ¬ Fault rate before t e

namespace Parser

/-! ## What the reader fails at -/

section

variable {rate : Float} {p : Parser} {enclosing : List Before} {b : Before} {t : Token}
  {outer inner ts : List Token} {e : QueryError}

theorem fault_of_startTerm (encloses : Encloses enclosing outer) (spells : b.Spells inner)
    (shallow : depth ⟨enclosing, .term b⟩ ≤ maxNesting)
    (fails : startTerm enclosing b t = .error e) :
    e = .unexpectedToken t.text t.offset ∨ Fault rate (outer ++ inner) t e := by
  -- Any term can stand where the reader expects one, so also one that the token opens.
  let word : Derivation .single := .leaf (.name someValue)
  have stands (e : Derivation .single) (full : maxNesting ≤ depth ⟨enclosing, .term b⟩) :
      ∃ d : Derivation .any, d.Contains (outer ++ inner) 128 e := by
    have exactly : depth ⟨enclosing, .term b⟩ = 128 := shallow.antisymm full
    exact exactly ▸ encloses.exists_contains spells e
  cases kind : t.kind with
  | not =>
    simp only [startTerm, kind] at fails
    split at fails
    next full =>
      cases fails
      obtain ⟨d, contains⟩ := stands (.not ⟨t, kind⟩ word) full
      exact .inr (.tooDeep contains rfl (.inl kind))
    next => cases fails
  | openParen =>
    simp only [startTerm, kind] at fails
    split at fails
    next full =>
      cases fails
      obtain ⟨d, contains⟩ := stands (.group ⟨t, kind⟩ (.only (.last word)) closing) full
      exact .inr (.tooDeep contains rfl (.inr kind))
    next => cases fails
  | quoted | bang | word => simp [startTerm, kind] at fails
  | _ =>
    simp only [startTerm, kind, unexpected, Except.error.injEq] at fails
    exact .inl fails.symm

theorem fault_of_continueAfter {a : After} (encloses : Encloses enclosing outer)
    (spells : a.Spells inner) (shallow : depth ⟨enclosing, .after a⟩ ≤ maxNesting)
    (fails : continueAfter enclosing a t = .error e) :
    e = .unexpectedToken t.text t.offset ∨ Fault rate (outer ++ inner) t e := by
  unfold continueAfter at fails
  split at fails
  next => cases fails
  next =>
    cases enclosing with
    | nil =>
      cases fails
      exact .inl rfl
    | cons before outer => cases fails
  next =>
    obtain ⟨p, d, before⟩ := spells
    exact fault_of_startTerm encloses (.conditions p d before) shallow fails

theorem fault_of_finishKeyword {word value : Token} {operator : Operator} {exact : Bool}
    (l : Leaf) (encloses : Encloses enclosing outer) (spells : b.Spells inner)
    (complete : l.tokens = ts ++ [t])
    (term : l.term rate = Term.ofKeyword rate word.text operator exact value.text)
    (fails : finishKeyword rate enclosing b word operator exact value = .error e) :
    Fault rate (outer ++ (inner ++ ts)) t e := by
  obtain ⟨d, contains⟩ := encloses.exists_contains spells (.leaf l)
  refine .rejected contains (by simp [complete]) ?_
  unfold finishKeyword at fails
  split at fails
  next => cases fails
  next e' rejects =>
    cases fails
    rw [term, rejects]

theorem fault_of_step (spells : p.Spells ts) (shallow : p.depth ≤ maxNesting)
    (fails : p.step rate t = .error e) :
    e = .unexpectedToken t.text t.offset ∨ Fault rate ts t e := by
  obtain @⟨enclosing, position, outer, inner, encloses, here⟩ := spells
  cases here with
  | term before => exact fault_of_startTerm encloses before shallow fails
  | word word before =>
    simp only [step] at fails
    split at fails
    next =>
      split at fails
      all_goals cases fails
    next =>
      have name : word.val.kind = .word := word.property
      exact fault_of_continueAfter encloses
        (before.add _ (.leaf (.name ⟨word.val, by simp [name, isValue]⟩)))
        ((depth_after_le _ _ _).trans shallow) fails
  | exactName mark before =>
    simp only [step] at fails
    split at fails
    next => cases fails
    next =>
      cases fails
      exact .inl rfl
  | value word sign equal before =>
    simp only [step] at fails
    split at fails
    next => cases fails
    next =>
      split at fails
      next value =>
        exact .inr (fault_of_finishKeyword (.equality word sign equal none ⟨t, value⟩) encloses
          before rfl rfl fails)
      next =>
        cases fails
        exact .inl rfl
  | exactValue word sign equal mark before =>
    simp only [step] at fails
    split at fails
    next => cases fails
    next =>
      split at fails
      next value =>
        exact .inr (fault_of_finishKeyword (.equality word sign equal (some mark) ⟨t, value⟩)
          encloses before rfl rfl fails)
      next =>
        cases fails
        exact .inl rfl
  | operand word sign unequal before =>
    simp only [step] at fails
    split at fails
    next value =>
      exact .inr (fault_of_finishKeyword (.comparison word sign unequal ⟨t, value⟩) encloses
        before rfl rfl fails)
    next =>
      cases fails
      exact .inl rfl
  | after spelled => exact fault_of_continueAfter encloses spelled shallow fails

end

/-! ## Reading up to the first fault -/

section

variable {rate : Float} {p : Parser} {t : Token} {ts : List Token} {e : QueryError}

theorem run_eq_error_iff : p.run rate ts = .error e ↔
    ∃ before t after q, ts = before ++ t :: after ∧ p.run rate before = .ok q ∧
      q.step rate t = .error e := by
  constructor
  next =>
    intro fails
    induction ts generalizing p with
    | nil => cases fails
    | cons t ts ih =>
      simp only [run] at fails
      split at fails
      next next steps =>
        obtain ⟨before, u, after, q, rfl, runs, stops⟩ := ih fails
        exact ⟨t :: before, u, after, q, rfl, by simpa only [run, steps] using runs, stops⟩
      next steps =>
        cases fails
        exact ⟨[], t, ts, p, rfl, rfl, steps⟩
  next =>
    rintro ⟨before, t, after, q, rfl, runs, stops⟩
    simp only [run_append, runs, bind_ok, run, stops]

theorem spells_of_run (runs : start.run rate ts = .ok p) : p.Spells ts := by
  have begins : start.Spells [] := .mk .nil (.term .start)
  exact begins.run runs

theorem isSyntactic_of_outcome {d : Derivation .any}
    (fails : start.outcome rate d.tokens = .error e) : e.isSyntactic = false := by
  obtain ⟨t, ts, tokens, -⟩ := d.exists_head
  have parses : parse rate d.tokens = .error e := by
    rw [tokens] at fails ⊢
    rw [parse_cons, fails]
    rfl
  rw [parse_tokens, map_eq_error_iff] at parses
  exact Derivation.isSyntactic_of_read parses

theorem not_viable_of_step (runs : start.run rate ts = .ok p)
    (fails : p.step rate t = .error e) (syntactic : e.isSyntactic = true) :
    ¬ Viable (ts ++ [t]) := by
  rintro ⟨rest, d, same⟩
  have outcome : start.outcome rate d.tokens = .error e := by
    rw [same, List.append_assoc, outcome_append runs, List.singleton_append, outcome_cons, fails]
    rfl
  rw [isSyntactic_of_outcome outcome] at syntactic
  cases syntactic

theorem fault_of_fails (runs : start.run rate ts = .ok p) (fails : p.step rate t = .error e) :
    Fault rate ts t e := by
  have spells := spells_of_run runs
  rcases fault_of_step spells (depth_run (Nat.zero_le _) runs) fails with rfl | fault
  next => exact .unexpected spells.viable (not_viable_of_step runs fails rfl)
  next => exact fault

theorem step_of_outcome (fails : p.outcome rate [t] = .error e) (meant : e.isSyntactic = false) :
    p.step rate t = .error e := by
  rw [outcome_cons] at fails
  rcases bind_eq_error_iff.1 fails with steps | ⟨next, -, finishes⟩
  next => exact steps
  next =>
    rw [finish_eq_error finishes] at meant
    cases meant

theorem step_of_tooDeep {d : Derivation .any} {f : Derivation .single}
    (runs : start.run rate ts = .ok p) (contains : d.Contains ts 128 f)
    (nests : t.kind = .not ∨ t.kind = .openParen) :
    p.step rate t = .error (.tooDeep 128 t.offset) := by
  have starts : startsTerm t.kind = true := by
    rcases nests with kind | kind <;> rw [kind] <;> rfl
  refine step_of_outcome ?_ rfl
  rw [← outcome_append runs]
  rcases reaches rate contains [] .start (.inr rfl) with
    ⟨e, meant, fails⟩ | ⟨enclosing, place, deep, leads⟩
  next =>
    rw [eq_end_of_outcome runs fails] at meant
    cases meant
  next =>
    have full : maxNesting ≤ depth ⟨enclosing, .term place⟩ := deep.ge
    refine (leads t [] starts).trans ?_
    rcases nests with kind | kind
    next => exact (outcome_not ⟨t, kind⟩).trans (if_pos full)
    next => exact (outcome_openParen ⟨t, kind⟩).trans (if_pos full)

theorem step_of_rejected {d : Derivation .any} {before : List Token} {n : Nat} {l : Leaf}
    (runs : start.run rate ts = .ok p) (contains : d.Contains before n (.leaf l))
    (complete : before ++ l.tokens = ts ++ [t]) (rejects : l.term rate = .error e) :
    p.step rate t = .error e := by
  obtain ⟨u, more, tokens, opens⟩ := (Derivation.leaf l).exists_head
  refine step_of_outcome ?_ (Leaf.isSyntactic_of_term rejects)
  rw [← outcome_append runs, ← complete]
  rcases reaches rate contains [] .start (.inr rfl) with
    ⟨e, meant, fails⟩ | ⟨enclosing, place, -, leads⟩
  next =>
    -- What stands before the term has been read with the rest of the tokens.
    obtain ⟨rest, rfl⟩ : before <+: ts := by
      have short : before.length ≤ ts.length := by
        have lengths := congrArg List.length complete
        simp only [Derivation.tokens] at tokens
        simp only [tokens, List.length_append, List.length_cons, List.length_nil] at lengths
        omega
      exact List.prefix_of_prefix_length_le ⟨_, complete⟩ (List.prefix_append ts [t]) short
    rw [run_append] at runs
    obtain ⟨q, first, -⟩ := bind_eq_ok_iff.1 runs
    rw [eq_end_of_outcome first fails] at meant
    cases meant
  next =>
    have term : outcome rate ⟨enclosing, .term place⟩ (l.tokens ++ []) = .error e := by
      rw [outcome_leaf l (stops_nil .single), rejects, bind_error]
    rw [List.append_nil] at term
    have first := leads u more opens
    rw [← tokens] at first
    exact first.trans term

theorem step_of_fault (runs : start.run rate ts = .ok p) (fault : Fault rate ts t e) :
    p.step rate t = .error e := by
  cases fault with
  | unexpected viable stuck =>
    cases steps : p.step rate t with
    | ok next =>
      exact absurd ((spells_of_run runs).step steps).viable stuck
    | error e =>
      -- A term that the token opens or ends would make the tokens viable.
      cases fault_of_fails runs steps with
      | unexpected => rfl
      | tooDeep contains opens =>
        obtain ⟨rest, first⟩ := List.head?_eq_some_iff.1 opens
        exact absurd (contains.viable ⟨rest, first.symm⟩) stuck
      | rejected contains complete =>
        exact absurd (complete ▸ contains.viable (List.prefix_refl _)) stuck
  | tooDeep contains opens nests => exact step_of_tooDeep runs contains nests
  | rejected contains complete rejects => exact step_of_rejected runs contains complete rejects

theorem faultless_of_run (runs : start.run rate ts = .ok p) : Faultless rate ts := by
  rintro before t after e rfl fault
  rw [run_append] at runs
  obtain ⟨q, first, others⟩ := bind_eq_ok_iff.1 runs
  simp [run, step_of_fault first fault] at others

theorem exists_run (faultless : Faultless rate ts) : ∃ p, start.run rate ts = .ok p := by
  cases runs : start.run rate ts with
  | ok p => exact ⟨p, rfl⟩
  | error e =>
    obtain ⟨before, t, after, q, split, first, fails⟩ := run_eq_error_iff.1 runs
    exact absurd (fault_of_fails first fails) (faultless before t after e split)

theorem not_grammatical_of_finish (runs : start.run rate ts = .ok p)
    (fails : p.finish = .error e) : ¬ Grammatical ts := by
  rintro ⟨d, rfl⟩
  have outcome : start.outcome rate d.tokens = .error e := by
    simp only [Parser.outcome, runs, bind_ok, fails]
  have meant := isSyntactic_of_outcome outcome
  rw [finish_eq_error fails] at meant
  cases meant

end

end Parser

/-- A list of tokens that is not accepted is refused for the fault of its first token that has
one. If none has, it is the front of a query without being one, and that is what is reported. -/
theorem parse_eq_error_iff (rate : Float) (t : Token) (ts : List Token) (e : QueryError) :
    parse rate (t :: ts) = .error e ↔
      (∃ before u after, t :: ts = before ++ u :: after ∧ Fault rate before u e ∧
        Faultless rate before) ∨
      (e = .unexpectedEnd ∧ Viable (t :: ts) ∧ ¬ Grammatical (t :: ts) ∧
        Faultless rate (t :: ts)) := by
  rw [Parser.parse_cons, map_eq_error_iff, Parser.outcome, bind_eq_error_iff,
    Parser.run_eq_error_iff]
  constructor
  next =>
    rintro (⟨before, u, after, p, split, runs, fails⟩ | ⟨p, runs, fails⟩)
    next =>
      exact .inl ⟨before, u, after, split, Parser.fault_of_fails runs fails,
        Parser.faultless_of_run runs⟩
    next =>
      exact .inr ⟨Parser.finish_eq_error fails, (Parser.spells_of_run runs).viable,
        Parser.not_grammatical_of_finish runs fails, Parser.faultless_of_run runs⟩
  next =>
    rintro (⟨before, u, after, split, fault, faultless⟩ | ⟨rfl, -, incomplete, faultless⟩)
    next =>
      obtain ⟨p, runs⟩ := Parser.exists_run faultless
      exact .inl ⟨before, u, after, p, split, runs, Parser.step_of_fault runs fault⟩
    next =>
      obtain ⟨p, runs⟩ := Parser.exists_run faultless
      refine .inr ⟨p, runs, ?_⟩
      cases finishes : p.finish with
      | ok q => exact absurd ((Parser.spells_of_run runs).exists_derivation finishes) incomplete
      | error e => rw [Parser.finish_eq_error finishes]

end CardCatalog.Query
