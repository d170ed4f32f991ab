import CardCatalog.Query.Basic
import CardCatalog.Query.Lexer

/-!
Reading a query from its tokens, one token at a time.

    option      := combination ("or" combination)*
    combination := term+
    term        := "-" term
                 | "(" option ")"
                 | PHRASE | WORD
                 | "!" (PHRASE | WORD)
                 | WORD (":" | "=") "!"? (PHRASE | WORD)
                 | WORD (">" | "<" | ">=" | "<=" | "!=") WORD

The state of the reader holds what has been read so far at every level of parentheses, and each
token either extends it or is the first that cannot stand where it does. Negations and
parentheses nest to a limited depth.
-/

set_option autoImplicit false

namespace CardCatalog.Query

/-- The deepest nesting of negations and parentheses. -/
def maxNesting : Nat := 128

/-- What stands before a term within its parentheses: complete alternatives, the conditions of
the alternative that is being read, and the negations of the term. -/
structure Before where
  alternatives : Option (Query .any)
  conditions : Option (Query .all)
  negations : Nat

/-- What stands before a place where the next alternative, the next condition or the end may
follow. -/
structure After where
  alternatives : Option (Query .any)
  conditions : Query .all

def Before.start : Before := ⟨none, none, 0⟩

def Before.add (b : Before) (q : Query .single) : After where
  alternatives := b.alternatives
  conditions :=
    match b.conditions with
    | none => .one (negate b.negations q)
    | some p => .and p (negate b.negations q)

def After.query (a : After) : Query .any :=
  match a.alternatives with
  | none => .only a.conditions
  | some p => .or p a.conditions

/-- Where the reader stands within the innermost parentheses. -/
inductive Position where
  /-- A term must start. -/
  | term (before : Before)
  /-- After a word, which is a name unless an operator follows. -/
  | word (before : Before) (word : Token)
  /-- After a `!`, where the text of an exact name must stand. -/
  | exactName (before : Before)
  /-- After a keyword and `:` or `=`, and possibly a `!`. -/
  | value (before : Before) (word : Token) (operator : Operator) (exact : Bool)
  /-- After a keyword and a comparison, where only a word may stand. -/
  | operand (before : Before) (word : Token) (operator : Operator)
  /-- After a complete term. -/
  | after (after : After)

/-- The reader: what stands before each open parenthesis, the innermost first, and the place
within the innermost one. -/
structure Parser where
  enclosing : List Before
  position : Position

def Position.negations : Position → Nat
  | term b | word b _ | exactName b | value b _ _ _ | operand b _ _ => b.negations
  | after _ => 0

/-- The number of negations and parentheses that are open. -/
def Parser.depth (p : Parser) : Nat :=
  p.position.negations + p.enclosing.foldr (fun b depth => b.negations + 1 + depth) 0

def unexpected {α : Type} (t : Token) : Except QueryError α :=
  .error (.unexpectedToken t.text t.offset)

def isValue (kind : TokenKind) : Bool :=
  kind = .word || kind = .quoted

namespace Parser

def start : Parser := ⟨[], .term .start⟩

def startTerm (enclosing : List Before) (before : Before) (t : Token) : Except QueryError Parser :=
  let nest (p : Parser) : Except QueryError Parser :=
    if maxNesting ≤ depth ⟨enclosing, .term before⟩ then .error (.tooDeep maxNesting t.offset)
    else .ok p
  match t.kind with
  | .not => nest ⟨enclosing, .term { before with negations := before.negations + 1 }⟩
  | .openParen => nest ⟨before :: enclosing, .term .start⟩
  | .quoted => .ok ⟨enclosing, .after (before.add (.term (.name t.text false)))⟩
  | .bang => .ok ⟨enclosing, .exactName before⟩
  | .word => .ok ⟨enclosing, .word before t⟩
  | _ => unexpected t

/-- Reads the token after a complete term: another alternative, the end of the parentheses, or
the first token of the next condition. -/
def continueAfter (enclosing : List Before) (after : After) (t : Token) :
    Except QueryError Parser :=
  match t.kind with
  | .or => .ok ⟨enclosing, .term ⟨some after.query, none, 0⟩⟩
  | .closeParen =>
    match enclosing with
    | [] => unexpected t
    | before :: outer => .ok ⟨outer, .after (before.add (.group after.query))⟩
  -- Conditions that stand side by side must all hold.
  | _ => startTerm enclosing ⟨after.alternatives, some after.conditions, 0⟩ t

/-- Completes a keyword term with its value. -/
def finishKeyword (rate : Float) (enclosing : List Before) (before : Before) (word : Token)
    (operator : Operator) (exact : Bool) (value : Token) : Except QueryError Parser :=
  match Term.ofKeyword rate word.text operator exact value.text with
  | .ok found => .ok ⟨enclosing, .after (before.add (.term found))⟩
  | .error e => .error e

def step (rate : Float) (p : Parser) (t : Token) : Except QueryError Parser :=
  match p.position with
  | .term before => startTerm p.enclosing before t
  | .word before word =>
    match Operator.ofKind? t.kind with
    | some operator =>
      if operator.isEquality then .ok ⟨p.enclosing, .value before word operator false⟩
      else .ok ⟨p.enclosing, .operand before word operator⟩
    | none => continueAfter p.enclosing (before.add (.term (.name word.text false))) t
  | .exactName before =>
    if isValue t.kind then .ok ⟨p.enclosing, .after (before.add (.term (.name t.text true)))⟩
    else unexpected t
  | .value before word operator exact =>
    -- Only one mark for an exact value may stand before it.
    if t.kind = .bang && !exact then .ok ⟨p.enclosing, .value before word operator true⟩
    else if isValue t.kind then finishKeyword rate p.enclosing before word operator exact t
    else unexpected t
  | .operand before word operator =>
    if t.kind = .word then finishKeyword rate p.enclosing before word operator false t
    else unexpected t
  | .after after => continueAfter p.enclosing after t

def finish (p : Parser) : Except QueryError (Query .any) :=
  match p.enclosing, p.position with
  | [], .after a => .ok a.query
  | [], .word before word => .ok (before.add (.term (.name word.text false))).query
  | _, _ => .error .unexpectedEnd

def run (rate : Float) (p : Parser) : List Token → Except QueryError Parser
  | [] => .ok p
  | t :: rest =>
    match p.step rate t with
    | .ok next => next.run rate rest
    | .error e => .error e

end Parser

def parse (rate : Float) (tokens : List Token) : Except QueryError (Option (Query .any)) :=
  match tokens with
  | [] => .ok none
  | tokens =>
    match Parser.start.run rate tokens with
    | .ok p => p.finish.map some
    | .error e => .error e

/-- The query of a search text. Prices in it are in a currency of which `rate` units are one
dollar. -/
def compile (rate : Float) (text : String) : Except QueryError (Option (Query .any)) :=
  parse rate (tokens text)

/-- The condition of a search text; a text without terms has the empty one. -/
def conditionOf (query : Option (Query .any)) : Fragment :=
  match query with
  | some q => q.fragment
  | none => .empty

end CardCatalog.Query
