import Mathlib
import CardCatalog.Proofs.Query.Derivation

/-!
Reading a query by recursive descent. The rules of the grammar call each other and share a cursor.
What a rule does is data: it reads a token, calls a rule and goes on with what that gives back, or
is done. So it can be said at every moment of a descent which calls are open.
-/

set_option autoImplicit false

namespace CardCatalog.Query

/-- How many tokens have been read and how many levels the descent is down. The depth is an
integer, so nothing but the rules keeps it from falling below zero. -/
structure Cursor where
  position : Nat
  depth : Int

namespace Cursor

def next (s : Cursor) : Cursor :=
  { s with position := s.position + 1 }

def enter (s : Cursor) : Cursor :=
  { s with depth := s.depth + 1 }

def leave (s : Cursor) : Cursor :=
  { s with depth := s.depth - 1 }

def advance (tokens : List Token) (s : Cursor) : Except QueryError Token × Cursor :=
  match tokens[s.position]? with
  | some t => (.ok t, s.next)
  | none => (.error .unexpectedEnd, s)

def peek? (tokens : List Token) (s : Cursor) : Option TokenKind :=
  tokens[s.position]?.map Token.kind

end Cursor

/-- The rules that call each other. An option or a combination that goes on after a part of it
calls itself with what it has joined so far. -/
inductive Rule : Rank → Type where
  | option (left : Option (Query .any)) : Rule .any
  | combination (left : Option (Query .all)) : Rule .all
  | term : Rule .single
  /-- What follows a negation sign or an opening parenthesis, one level below it. -/
  | nested (sign : Token) : Rule .single

inductive Action (r : Rank) where
  | done (result : Except QueryError (Query r)) (cursor : Cursor)
  | advance (cursor : Cursor) (next : Except QueryError Token → Cursor → Action r)
  | call {inner : Rank} (rule : Rule inner) (cursor : Cursor)
      (next : Except QueryError (Query inner) → Cursor → Action r)

namespace Action

variable {r : Rank}

def cursor : Action r → Cursor
  | done _ s | advance s _ | call _ s _ => s

/-- Goes on with a result; an error ends the rule. -/
def passing {α : Type} (next : α → Cursor → Action r) : Except QueryError α → Cursor → Action r
  | .ok a, s => next a s
  | .error e, s => done (.error e) s

def demand (accepts : TokenKind → Bool) (s : Cursor) (next : Token → Cursor → Action r) :
    Action r :=
  advance s <| passing fun t s => if accepts t.kind then next t s else done (unexpected t) s

end Action

section

variable (rate : Float) (tokens : List Token)

/-- What is left of a keyword term after its keyword. -/
def keywordTerm (word : Token) (s : Cursor) : Action .single :=
  .advance s <| .passing fun sign s =>
    match Operator.ofKind? sign.kind with
    | none => .done (unexpected sign) s
    | some operator =>
      let exact := sign.kind.isEquality && s.peek? tokens = some .bang
      let accepts : TokenKind → Bool := if sign.kind.isComparison then (· = .word) else isValue
      .demand accepts (if exact then s.next else s) fun value s =>
        .done ((Term.ofKeyword rate word.text operator exact value.text).map .term) s

namespace Rule

def body {r : Rank} : Rule r → Cursor → Action r
  | option left, s =>
    .call (combination none) s <| .passing fun q s =>
      if s.peek? tokens = some .or then .call (option (some (orAfter left q))) s.next .done
      else .done (.ok (orAfter left q)) s
  | combination left, s =>
    .call term s <| .passing fun q s =>
      if (s.peek? tokens).any startsTerm then .call (combination (some (andAfter left q))) s .done
      else .done (.ok (andAfter left q)) s
  | term, s =>
    .advance s <| .passing fun t s =>
      match t.kind with
      | .not | .openParen => .call (nested t) s .done
      | .quoted => .done (.ok (.term (.name t.text false))) s
      | .bang => .demand isValue s fun value s => .done (.ok (.term (.name value.text true))) s
      | .word =>
        if (s.peek? tokens).any fun kind => kind.isEquality || kind.isComparison then
          keywordTerm rate tokens t s
        else .done (.ok (.term (.name t.text false))) s
      | _ => .done (unexpected t) s
  | nested sign, s =>
    if maxNesting ≤ s.depth then .done (.error (.tooDeep maxNesting sign.offset)) s
    else
      -- The level is left again whatever comes of the call.
      match sign.kind with
      | .not => .call term s.enter fun x s => .done (x.map .not) s.leave
      | _ =>
        .call (option none) s.enter fun
          | .error e, s => .done (.error e) s.leave
          | .ok q, s =>
            .advance s fun x s =>
              .done (x.bind fun t => if t.kind = .closeParen then .ok (.group q) else unexpected t)
                s.leave

/-- How many levels below its own the rule makes its calls. -/
def levels {r : Rank} : Rule r → Nat
  | nested _ => 1
  | _ => 0

end Rule

/-! ## Open calls -/

/-- The calls that wait for the one that each of them has made, the innermost first, with how they
go on then. -/
inductive Callers : Rank → Type where
  | nil : Callers .any
  | cons {r outer : Rank} (rule : Rule outer)
      (next : Except QueryError (Query r) → Cursor → Action outer) (callers : Callers outer) :
      Callers r

def Callers.levels {r : Rank} : Callers r → Nat
  | nil => 0
  | cons rule _ callers => rule.levels + callers.levels

/-- The rule that runs, what it does next, and the calls that wait for it. -/
structure Descent where
  {rank : Rank}
  rule : Rule rank
  action : Action rank
  callers : Callers rank

namespace Descent

def start : Descent where
  rule := .option none
  action := (Rule.option none).body rate tokens ⟨0, 0⟩
  callers := .nil

def next? : Descent → Option Descent
  | ⟨rule, .advance s next, callers⟩ =>
    some ⟨rule, next (s.advance tokens).1 (s.advance tokens).2, callers⟩
  | ⟨rule, .call inner s next, callers⟩ =>
    some ⟨inner, inner.body rate tokens s, .cons rule next callers⟩
  | ⟨_, .done x s, .cons rule next callers⟩ => some ⟨rule, next x s, callers⟩
  | ⟨_, .done _ _, .nil⟩ => none

def Leads : Descent → Descent → Prop :=
  Relation.ReflTransGen fun d e => d.next? rate tokens = some e

/-- What the outermost rule gives back is the query of the text if no token is left. -/
def conclude (q : Query .any) (s : Cursor) : Except QueryError (Query .any) :=
  match tokens[s.position]? with
  | none => .ok q
  | some t => unexpected t

end Descent

end

end CardCatalog.Query
