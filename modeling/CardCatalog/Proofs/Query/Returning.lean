import CardCatalog.Proofs.Query.Nesting
import CardCatalog.Proofs.Query.OpenCalls
import CardCatalog.Proofs.Query.Parsing

/-!
A descent comes to an end, with what the reader of the tokens gives for them. A call comes back
since the calls within it come later in the text or are of rules that do not lead back to its own;
what it comes back with is what the reader goes on with from there. Main statement: the descent is
bounded, and the result of a text is that of its descent.
-/

set_option autoImplicit false

namespace CardCatalog.Query

open CardCatalog.Query.Parser (outcome)

/-! ## What a call reads -/

def Cursor.rest (tokens : List Token) (s : Cursor) : List Token :=
  tokens.drop s.position

/-- The reader reads on from where the call was made as it does from where the call comes back to,
with the result put in its place. A rule comes back only where it cannot go on. -/
def Rule.Agrees (rate : Float) (tokens : List Token) :
    {r : Rank} → Rule r → Cursor → Except QueryError (Query r) → Cursor → Prop
  | _, option left, s, x, t =>
    (∀ enclosing, s.depth = Parser.depth ⟨enclosing, .term ⟨left, none, 0⟩⟩ →
      outcome rate ⟨enclosing, .term ⟨left, none, 0⟩⟩ (s.rest tokens) =
        x.bind fun q => outcome rate ⟨enclosing, .after (.ofQuery q)⟩ (t.rest tokens)) ∧
    ∀ q, x = .ok q → ∀ kind ∈ t.peek? tokens, startsTerm kind = false ∧ kind ≠ .or
  | _, combination left, s, x, t =>
    (∀ enclosing alternatives,
      s.depth = Parser.depth ⟨enclosing, .term ⟨alternatives, left, 0⟩⟩ →
      outcome rate ⟨enclosing, .term ⟨alternatives, left, 0⟩⟩ (s.rest tokens) =
        x.bind fun q => outcome rate ⟨enclosing, .after ⟨alternatives, q⟩⟩ (t.rest tokens)) ∧
    ∀ q, x = .ok q → ∀ kind ∈ t.peek? tokens, startsTerm kind = false
  | _, term, s, x, t =>
    ∀ enclosing before, s.depth = Parser.depth ⟨enclosing, .term before⟩ →
      outcome rate ⟨enclosing, .term before⟩ (s.rest tokens) =
        x.bind fun q => outcome rate ⟨enclosing, .after (before.add q)⟩ (t.rest tokens)
  | _, nested sign, s, x, t =>
    sign.kind = .not ∨ sign.kind = .openParen →
    ∀ enclosing before, s.depth = Parser.depth ⟨enclosing, .term before⟩ →
      outcome rate ⟨enclosing, .term before⟩ (sign :: s.rest tokens) =
        x.bind fun q => outcome rate ⟨enclosing, .after (before.add q)⟩ (t.rest tokens)

/-- What the rest of a rule that was called at `entry` reads if every call agrees with the
reader. -/
def Action.Reads (rate : Float) (tokens : List Token) {r : Rank} (rule : Rule r) (entry : Cursor) :
    Action r → Prop
  | done x s => rule.Agrees rate tokens entry x s
  | advance s next =>
    ∀ x t, s.advance tokens = (x, t) → (next x t).Reads rate tokens rule entry
  | call inner s next =>
    ∀ x t, Kept tokens.length s x t → inner.Agrees rate tokens s x t →
      (next x t).Reads rate tokens rule entry

section

variable {rate : Float} {tokens : List Token} {s t entry : Cursor} {r : Rank}

theorem rest_of_some {token : Token} (found : tokens[s.position]? = some token) :
    s.rest tokens = token :: s.next.rest tokens := by
  obtain ⟨inside, rfl⟩ := List.getElem?_eq_some_iff.1 found
  exact List.drop_eq_getElem_cons inside

theorem rest_of_none (none : tokens[s.position]? = none) : s.rest tokens = [] :=
  List.drop_eq_nil_iff.2 (List.getElem?_eq_none_iff.1 none)

theorem head?_rest : (s.rest tokens).head? = tokens[s.position]? :=
  List.head?_drop

theorem exists_rest_of_peek? {kind : TokenKind} (peeks : s.peek? tokens = some kind) :
    ∃ token, token.kind = kind ∧ s.rest tokens = token :: s.next.rest tokens := by
  obtain ⟨token, found, same⟩ := Option.map_eq_some_iff.1 peeks
  exact ⟨token, same, rest_of_some found⟩

/-- Within a term, the reader comes to a position while the rule comes to the cursor. -/
def Tracks (rate : Float) (tokens : List Token) (entry s : Cursor) (place : Before → Position) :
    Prop :=
  ∀ enclosing before, entry.depth = Parser.depth ⟨enclosing, .term before⟩ →
    outcome rate ⟨enclosing, .term before⟩ (entry.rest tokens) =
      outcome rate ⟨enclosing, place before⟩ (s.rest tokens)

theorem Tracks.step {place next : Before → Position} {token : Token}
    (tracks : Tracks rate tokens entry s place) (found : tokens[s.position]? = some token)
    (steps : ∀ enclosing before,
      Parser.step rate ⟨enclosing, place before⟩ token = .ok ⟨enclosing, next before⟩) :
    Tracks rate tokens entry s.next next := by
  intro enclosing before depth
  rw [tracks enclosing before depth, rest_of_some found, Parser.outcome_cons, steps, bind_ok]

theorem Tracks.unexpected {place : Before → Position} {token : Token}
    (tracks : Tracks rate tokens entry s place) (found : tokens[s.position]? = some token)
    (fails : ∀ enclosing before,
      Parser.step rate ⟨enclosing, place before⟩ token = Query.unexpected token) :
    Rule.term.Agrees rate tokens entry (Query.unexpected token) t := by
  intro enclosing before depth
  rw [tracks enclosing before depth, rest_of_some found, Parser.outcome_cons, fails]
  rfl

theorem Tracks.finish {place : Before → Position} (tracks : Tracks rate tokens entry s place)
    (none : tokens[s.position]? = none)
    (ends : ∀ enclosing before, Parser.finish ⟨enclosing, place before⟩ = .error .unexpectedEnd) :
    Rule.term.Agrees rate tokens entry (.error .unexpectedEnd) t := by
  intro enclosing before depth
  rw [tracks enclosing before depth, rest_of_none none, Parser.outcome_nil, ends]
  rfl

theorem reads_demand {place : Before → Position} {accepts : TokenKind → Bool}
    {next : Token → Cursor → Action .single} (tracks : Tracks rate tokens entry s place)
    (ends : ∀ enclosing before, Parser.finish ⟨enclosing, place before⟩ = .error .unexpectedEnd)
    (fails : ∀ token, tokens[s.position]? = some token → accepts token.kind = false →
      ∀ enclosing before, Parser.step rate ⟨enclosing, place before⟩ token = unexpected token)
    (goes : ∀ token, tokens[s.position]? = some token → accepts token.kind = true →
      (next token s.next).Reads rate tokens .term entry) :
    (Action.demand accepts s next).Reads rate tokens .term entry := by
  intro x t reads
  cases x with
  | error e =>
    obtain ⟨none, rfl, rfl⟩ := Cursor.advance_eq_error reads
    exact tracks.finish none ends
  | ok token =>
    obtain ⟨found, rfl⟩ := Cursor.advance_eq_ok reads
    simp only [Action.passing]
    split
    next accepted => exact goes token found accepted
    next refused => exact tracks.unexpected found (fails token found (by simpa using refused))

theorem reads_keyword {place : Before → Position} {word value : Token} {operator : Operator}
    {exact : Bool} (tracks : Tracks rate tokens entry s place)
    (found : tokens[s.position]? = some value)
    (steps : ∀ enclosing before, Parser.step rate ⟨enclosing, place before⟩ value =
      Parser.finishKeyword rate enclosing before word operator exact value) :
    (Action.done ((Term.ofKeyword rate word.text operator exact value.text).map .term)
      s.next).Reads rate tokens .term entry := by
  intro enclosing before depth
  rw [tracks enclosing before depth, rest_of_some found, Parser.outcome_cons, steps,
    Parser.outcome_finishKeyword, bind_map]

theorem ofKind?_isSome (kind : TokenKind) :
    (Operator.ofKind? kind).isSome = (kind.isEquality || kind.isComparison) := by
  cases kind <;> rfl

theorem isEquality_of_ofKind? {kind : TokenKind} {operator : Operator}
    (reads : Operator.ofKind? kind = some operator) :
    kind.isEquality = operator.isEquality ∧ kind.isComparison = !operator.isEquality := by
  cases kind <;> cases reads <;> decide

theorem reads_keywordTerm {word : Token}
    (tracks : Tracks rate tokens entry s fun before => .word before word)
    (operator : (s.peek? tokens).any (fun kind => kind.isEquality || kind.isComparison) = true) :
    (keywordTerm rate tokens word s).Reads rate tokens .term entry := by
  obtain ⟨kind, peeks, isOperator⟩ := (Option.any_eq_true _ _).1 operator
  obtain ⟨sign, found, rfl⟩ := Option.map_eq_some_iff.1 peeks
  obtain ⟨operator, reads⟩ := Option.isSome_iff_exists.1 ((ofKind?_isSome _).trans isOperator)
  obtain ⟨equal, compares⟩ := isEquality_of_ofKind? reads
  intro x t advances
  have first : (x, t) = (.ok sign, s.next) := by
    rw [← advances]
    simp [Cursor.advance, found]
  cases first
  simp only [Action.passing, reads, equal, compares]
  cases equality : operator.isEquality with
  | false =>
    have afterSign : Tracks rate tokens entry s.next fun before => .operand before word operator :=
      tracks.step found fun enclosing before => by simp [Parser.step, reads, equality]
    simp only [Bool.false_and, Bool.not_false, if_true, Bool.false_eq_true, if_false]
    apply reads_demand afterSign
    next => exact fun enclosing before => by cases enclosing <;> rfl
    next =>
      intro token _ refused enclosing before
      have other : token.kind ≠ .word := by simpa using refused
      simp [Parser.step, other]
    next =>
      intro value found accepted
      have isWord : value.kind = .word := by simpa using accepted
      exact reads_keyword afterSign found fun enclosing before => by simp [Parser.step, isWord]
  | true =>
    have afterSign : Tracks rate tokens entry s.next
        fun before => .value before word operator false :=
      tracks.step found fun enclosing before => by simp [Parser.step, reads, equality]
    simp only [Bool.true_and, Bool.not_true, Bool.false_eq_true, if_false, decide_eq_true_eq]
    split
    next marked =>
      obtain ⟨mark, found, bang⟩ := Option.map_eq_some_iff.1 marked
      have afterMark : Tracks rate tokens entry s.next.next
          fun before => .value before word operator true :=
        afterSign.step found fun enclosing before => by simp [Parser.step, bang]
      simp only [marked, decide_true]
      apply reads_demand afterMark
      next => exact fun enclosing before => by cases enclosing <;> rfl
      next => exact fun token _ refused enclosing before => by simp [Parser.step, refused]
      next =>
        intro value found accepted
        exact reads_keyword afterMark found fun enclosing before => by
          simp [Parser.step, accepted]
    next unmarked =>
      have noMark (token : Token) (found : tokens[s.next.position]? = some token) :
          token.kind ≠ .bang := by
        intro bang
        exact unmarked (by simp [Cursor.peek?, found, bang])
      simp only [unmarked, decide_false]
      apply reads_demand afterSign
      next => exact fun enclosing before => by cases enclosing <;> rfl
      next =>
        intro token found refused enclosing before
        simp [Parser.step, noMark token found, refused]
      next =>
        intro value found accepted
        exact reads_keyword afterSign found fun enclosing before => by
          simp [Parser.step, noMark value found, accepted]

theorem outcome_unexpected {enclosing : List Before} {after : After} {token : Token}
    {rest : List Token} (starts : startsTerm token.kind = false) (joins : token.kind ≠ .or)
    (closes : token.kind = .closeParen → enclosing = []) :
    outcome rate ⟨enclosing, .after after⟩ (token :: rest) = unexpected token := by
  simp only [Parser.outcome_cons, Parser.step, Parser.continueAfter]
  cases kind : token.kind with
  | or => exact absurd kind joins
  | closeParen =>
    rw [closes kind]
    rfl
  | not | openParen | quoted | word | bang => simp [kind, startsTerm] at starts
  | _ =>
    simp only [Parser.startTerm, kind]
    rfl

theorem outcome_full {sign : Token} {enclosing : List Before} {before : Before}
    (opens : sign.kind = .not ∨ sign.kind = .openParen)
    (full : maxNesting ≤ Parser.depth ⟨enclosing, .term before⟩) (rest : List Token) :
    outcome rate ⟨enclosing, .term before⟩ (sign :: rest) =
      .error (.tooDeep maxNesting sign.offset) := by
  rcases opens with kind | kind
  next => rw [Parser.outcome_not ⟨sign, kind⟩, nested, if_pos full]
  next => rw [Parser.outcome_openParen ⟨sign, kind⟩, nested, if_pos full]

theorem outcome_closing {enclosing : List Before} {before : Before} {q : Query .any}
    {x : Except QueryError Token}
    (ends : ∀ kind ∈ s.peek? tokens, startsTerm kind = false ∧ kind ≠ .or)
    (reads : s.advance tokens = (x, t)) :
    outcome rate ⟨before :: enclosing, .after (.ofQuery q)⟩ (s.rest tokens) =
      (x.bind fun token =>
        if token.kind = .closeParen then .ok (.group q) else unexpected token).bind fun q =>
          outcome rate ⟨enclosing, .after (before.add q)⟩ (t.rest tokens) := by
  cases x with
  | error e =>
    obtain ⟨none, rfl, rfl⟩ := Cursor.advance_eq_error reads
    rw [rest_of_none none]
    rfl
  | ok token =>
    obtain ⟨found, rfl⟩ := Cursor.advance_eq_ok reads
    obtain ⟨stops, joins⟩ := ends token.kind (by simp [Cursor.peek?, found])
    rw [rest_of_some found, bind_ok]
    by_cases closes : token.kind = .closeParen
    next =>
      rw [if_pos closes, Parser.outcome_closeParen ⟨token, closes⟩, After.query_ofQuery]
      rfl
    next =>
      rw [if_neg closes, outcome_unexpected stops joins fun same => absurd same closes]
      rfl

theorem reads_option (left : Option (Query .any)) :
    ((Rule.option left).body rate tokens s).Reads rate tokens (.option left) s := by
  rintro x t kept ⟨agrees, ends⟩
  cases x with
  | error e => exact ⟨fun enclosing depth => agrees enclosing left depth, by simp⟩
  | ok p =>
    have first (enclosing : List Before)
        (depth : s.depth = Parser.depth ⟨enclosing, .term ⟨left, none, 0⟩⟩) :
        outcome rate ⟨enclosing, .term ⟨left, none, 0⟩⟩ (s.rest tokens) =
          outcome rate ⟨enclosing, .after (.ofQuery (orAfter left p))⟩ (t.rest tokens) := by
      rw [agrees enclosing left depth, bind_ok, After.ofQuery_orAfter]
    simp only [Action.passing]
    split
    next or =>
      rintro y u - ⟨agrees, ends⟩
      obtain ⟨sign, kind, rest⟩ := exists_rest_of_peek? or
      refine ⟨fun enclosing depth => ?_, ends⟩
      rw [first enclosing depth, rest, Parser.outcome_or ⟨sign, kind⟩, After.query_ofQuery]
      exact agrees enclosing (kept.depth.trans depth)
    next other =>
      refine ⟨first, fun q _ kind peeks => ⟨ends p rfl kind peeks, ?_⟩⟩
      rintro rfl
      exact other peeks

theorem reads_combination (left : Option (Query .all)) :
    ((Rule.combination left).body rate tokens s).Reads rate tokens (.combination left) s := by
  intro x t kept agrees
  have first (enclosing : List Before) (alternatives : Option (Query .any))
      (depth : s.depth = Parser.depth ⟨enclosing, .term ⟨alternatives, left, 0⟩⟩) :
      outcome rate ⟨enclosing, .term ⟨alternatives, left, 0⟩⟩ (s.rest tokens) =
        x.bind fun q => outcome rate ⟨enclosing, .after ⟨alternatives, andAfter left q⟩⟩
          (t.rest tokens) := by
    simpa only [Before.add_unnegated] using agrees enclosing ⟨alternatives, left, 0⟩ depth
  cases x with
  | error e => exact ⟨first, by simp⟩
  | ok q =>
    simp only [Action.passing]
    split
    next starts =>
      rintro y u - ⟨agrees, ends⟩
      obtain ⟨kind, peeks, starts⟩ := (Option.any_eq_true _ _).1 starts
      obtain ⟨token, rfl, rest⟩ := exists_rest_of_peek? peeks
      refine ⟨fun enclosing alternatives depth => ?_, ends⟩
      have next := agrees enclosing alternatives (kept.depth.trans depth)
      rw [rest] at next
      rw [first enclosing alternatives depth, bind_ok, rest, Parser.outcome_after starts, next]
    next stops =>
      refine ⟨first, fun _ _ kind peeks => ?_⟩
      have peeks : t.peek? tokens = some kind := peeks
      simpa [peeks] using stops

theorem reads_term : (Rule.term.body rate tokens s).Reads rate tokens .term s := by
  have tracks : Tracks rate tokens s s Position.term := fun enclosing before depth => rfl
  intro x t reads
  cases x with
  | error e =>
    obtain ⟨none, rfl, rfl⟩ := Cursor.advance_eq_error reads
    exact tracks.finish none fun enclosing before => by cases enclosing <;> rfl
  | ok token =>
    obtain ⟨found, rfl⟩ := Cursor.advance_eq_ok reads
    simp only [Action.passing]
    cases kind : token.kind with
    | not | openParen =>
      rintro y u - agrees enclosing before depth
      rw [rest_of_some found]
      exact agrees (by simp [kind]) enclosing before depth
    | quoted =>
      intro enclosing before depth
      simp [rest_of_some found, Parser.outcome_cons, Parser.step, Parser.startTerm, kind]
    | bang =>
      have afterMark : Tracks rate tokens s s.next Position.exactName :=
        tracks.step found fun enclosing before => by simp [Parser.step, Parser.startTerm, kind]
      apply reads_demand afterMark
      next => exact fun enclosing before => by cases enclosing <;> rfl
      next => exact fun value _ refused enclosing before => by simp [Parser.step, refused]
      next =>
        intro value later accepted enclosing before depth
        rw [afterMark enclosing before depth, rest_of_some later]
        simp [Parser.outcome_cons, Parser.step, accepted]
    | word =>
      have afterWord : Tracks rate tokens s s.next fun before => .word before token :=
        tracks.step found fun enclosing before => by simp [Parser.step, Parser.startTerm, kind]
      simp only
      split
      next operator => exact reads_keywordTerm afterWord operator
      next other =>
        -- No operator follows, so the word is a name.
        have stops : Stops .single (s.next.rest tokens) := by
          intro next head
          have peeks : s.next.peek? tokens = some next.kind := by
            rw [Cursor.peek?, ← head?_rest, head, Option.map_some]
          simpa [peeks, continues, ofKind?_isSome] using other
        intro enclosing before depth
        rw [afterWord enclosing before depth, Parser.outcome_word stops, bind_ok]
    | _ =>
      exact tracks.unexpected found fun enclosing before => by
        simp [Parser.step, Parser.startTerm, kind]

theorem reads_nested (sign : Token) :
    ((Rule.nested sign).body rate tokens s).Reads rate tokens (.nested sign) s := by
  simp only [Rule.body]
  split
  next full =>
    intro opens enclosing before depth
    rw [outcome_full opens (by omega)]
    rfl
  next room =>
    split
    next kind =>
      rintro x t - agrees opens enclosing before depth
      have negated := agrees enclosing { before with negations := before.negations + 1 }
        (by simp only [Cursor.enter, depth, Parser.depth_negated, Nat.cast_succ])
      rw [Parser.outcome_not ⟨sign, kind⟩, nested, if_neg (by omega)]
      simp only [Before.add_not] at negated
      rw [bind_map]
      exact negated
    next other =>
      rintro x t - ⟨agrees, ends⟩
      have grouped (opens : sign.kind = .not ∨ sign.kind = .openParen) (enclosing : List Before)
          (before : Before) (depth : s.depth = Parser.depth ⟨enclosing, .term before⟩) :
          outcome rate ⟨enclosing, .term before⟩ (sign :: s.rest tokens) =
            x.bind fun q => outcome rate ⟨before :: enclosing, .after (.ofQuery q)⟩
              (t.rest tokens) := by
        have kind : sign.kind = .openParen := opens.resolve_left other
        rw [Parser.outcome_openParen ⟨sign, kind⟩, nested, if_neg (by omega)]
        apply agrees (before :: enclosing)
        have inner := Parser.depth_opened enclosing before
        simp only [Before.start] at inner
        simp only [Cursor.enter, depth, inner, Nat.cast_succ]
      cases x with
      | error e => exact grouped
      | ok q =>
        intro y u reads opens enclosing before depth
        rw [grouped opens enclosing before depth, bind_ok, outcome_closing (ends q rfl) reads]
        rfl

theorem body_reads (rule : Rule r) (s : Cursor) :
    (rule.body rate tokens s).Reads rate tokens rule s := by
  cases rule with
  | option left => exact reads_option left
  | combination left => exact reads_combination left
  | term => exact reads_term
  | nested sign => exact reads_nested sign

end

/-! ## Every call comes back -/

section

variable (rate : Float) (tokens : List Token)

/-- The call comes back, wherever it is made, with what it should. -/
def Rule.Returns {r : Rank} (rule : Rule r) (s : Cursor) : Prop :=
  ∃ x t, Kept tokens.length s x t ∧ rule.Agrees rate tokens s x t ∧
    ∀ {outer : Rank} (caller : Rule outer) next (callers : Callers outer),
      Descent.Leads rate tokens ⟨caller, .call rule s next, callers⟩ ⟨caller, next x t, callers⟩

variable {rate tokens} {r : Rank}

-- By induction on what the rest of the rule does, with every call that it makes coming back.
theorem exists_done {rule : Rule r} {entry : Cursor} {action : Action r}
    (sound : action.Sound tokens rule entry) (reads : action.Reads rate tokens rule entry)
    (returns : ∀ {inner : Rank} (called : Rule inner) (s : Cursor),
      called.work tokens.length s < rule.work tokens.length entry → s.position ≤ tokens.length →
      called.Returns rate tokens s) :
    ∃ x t, Kept tokens.length entry x t ∧ rule.Agrees rate tokens entry x t ∧
      ∀ callers, Descent.Leads rate tokens ⟨rule, action, callers⟩ ⟨rule, .done x t, callers⟩ := by
  induction action with
  | done x s => exact ⟨x, s, sound.1, reads, fun callers => .refl⟩
  | advance s next ih =>
    obtain ⟨x, t, kept, agrees, leads⟩ := ih _ _ (sound.2 _ _ rfl) (reads _ _ rfl)
    exact ⟨x, t, kept, agrees, fun callers => .head rfl (leads callers)⟩
  | call called s next ih =>
    obtain ⟨within, falls, goes⟩ := sound
    obtain ⟨y, u, innerKept, innerAgrees, back⟩ := returns called s falls within.inside
    have sound := goes y u innerKept
    obtain ⟨x, t, kept, agrees, leads⟩ := ih y u sound (reads y u innerKept innerAgrees)
    exact ⟨x, t, kept, agrees, fun callers => (back rule next callers).trans (leads callers)⟩

theorem returns (rule : Rule r) (s : Cursor) (inside : s.position ≤ tokens.length) :
    rule.Returns rate tokens s := by
  induction work : rule.work tokens.length s using Nat.strong_induction_on generalizing r s with
  | _ m ih =>
    subst work
    obtain ⟨x, t, kept, agrees, leads⟩ := exists_done (body_sound rate rule inside)
      (body_reads rule s) fun called s falls inside => ih _ falls called s inside rfl
    refine ⟨x, t, kept, agrees, fun caller next callers => ?_⟩
    have enters : Descent.Leads rate tokens ⟨caller, .call rule s next, callers⟩
        ⟨rule, rule.body rate tokens s, .cons caller next callers⟩ := .single rfl
    exact (enters.trans (leads _)).tail rfl

theorem outcome_conclude {q : Query .any} {s : Cursor}
    (ends : ∀ kind ∈ s.peek? tokens, startsTerm kind = false ∧ kind ≠ .or) :
    outcome rate ⟨[], .after (.ofQuery q)⟩ (s.rest tokens) = Descent.conclude tokens q s := by
  cases found : tokens[s.position]? with
  | none => simp [rest_of_none found, Descent.conclude, found, Parser.finish]
  | some token =>
    obtain ⟨stops, joins⟩ := ends token.kind (by simp [Cursor.peek?, found])
    rw [rest_of_some found, outcome_unexpected stops joins fun _ => rfl, Descent.conclude, found]

theorem exists_end (rate : Float) (tokens : List Token) : ∃ x s,
    (Descent.start rate tokens).Leads rate tokens ⟨.option none, .done x s, .nil⟩ ∧
    parse rate tokens =
      if tokens = [] then .ok none
      else (x.bind fun q => Descent.conclude tokens q s).map some := by
  have inside : (⟨0, 0⟩ : Cursor).position ≤ tokens.length := Nat.zero_le _
  obtain ⟨x, s, -, ⟨agrees, ends⟩, leads⟩ := exists_done (body_sound rate (.option none) inside)
    (body_reads (.option none) _) fun called s _ inside => returns called s inside
  refine ⟨x, s, leads .nil, ?_⟩
  cases tokens with
  | nil => rfl
  | cons token rest =>
    have outcome : Parser.start.outcome rate (token :: rest) = _ := agrees [] rfl
    rw [Parser.parse_cons, if_neg (List.cons_ne_nil _ _), outcome]
    cases x with
    | error e => rfl
    | ok q => rw [bind_ok, bind_ok, outcome_conclude (ends q rfl)]

end

/-- The reader never has more than 128 negations and groups open. Nor has a descent: its depth is
never below zero or above 128, and it counts the open calls that went down a level, with the one
that runs among them unless that one is just being refused. Every call comes back at the depth at
which it was made, neither further back nor behind the last token, and further on if it succeeds.
So a descent comes to an end, and its result is what the tokens are read as. -/
theorem descent_bounded (rate : Float) (tokens : List Token) :
    (∀ front p, front <+: tokens → Parser.start.run rate front = .ok p → p.depth ≤ 128) ∧
    (∀ d, (Descent.start rate tokens).Leads rate tokens d →
      0 ≤ d.action.cursor.depth ∧ d.action.cursor.depth ≤ 128 ∧
      d.action.cursor.position ≤ tokens.length ∧
      d.callers.levels ≤ d.action.cursor.depth ∧
      d.action.cursor.depth ≤ d.callers.levels + d.rule.levels ∧
      (d.callers.levels + d.rule.levels ≤ 128 ∨
        ∃ offset s, d.action = .done (.error (.tooDeep 128 offset)) s)) ∧
    (∀ (r : Rank) (rule : Rule r) (s : Cursor), s.position ≤ tokens.length →
      ∃ x t, t.depth = s.depth ∧ s.position ≤ t.position ∧ t.position ≤ tokens.length ∧
        (∀ q, x = .ok q → s.position < t.position) ∧
        ∀ (outer : Rank) (caller : Rule outer) next callers,
          Descent.Leads rate tokens ⟨caller, .call rule s next, callers⟩
            ⟨caller, next x t, callers⟩) ∧
    ∃ x s, (Descent.start rate tokens).Leads rate tokens ⟨.option none, .done x s, .nil⟩ ∧
      parse rate tokens =
        if tokens = [] then .ok none
        else (x.bind fun q => Descent.conclude tokens q s).map some := by
  refine ⟨fun front p _ runs => Parser.depth_run (Nat.zero_le _) runs, fun d leads => ?_,
    fun r rule s inside => ?_, exists_end rate tokens⟩
  next =>
    obtain ⟨above, below, bounded, inside, room⟩ := (Descent.sound_of_leads leads).bounds
    exact ⟨(Int.natCast_nonneg _).trans above, bounded, inside, above, below, room⟩
  next =>
    obtain ⟨x, t, kept, -, leads⟩ : rule.Returns rate tokens s := returns rule s inside
    exact ⟨x, t, kept.depth, kept.forward, kept.inside, kept.advanced,
      fun outer caller next callers => leads caller next callers⟩

end CardCatalog.Query
