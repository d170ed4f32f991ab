import Mathlib
import CardCatalog.Query.Parser

/-!
The grammar of search texts, as derivations that keep every token they are made of. A derivation
has the tokens it spells, the depth to which its negations and groups nest, and the query it
stands for. Main statement: a list of tokens has at most one derivation.
-/

set_option autoImplicit false

namespace CardCatalog.Query

abbrev Sign (kind : TokenKind) :=
  { t : Token // t.kind = kind }

abbrev Value :=
  { t : Token // isValue t.kind = true }

/-- A sign between a keyword and its value, with the operator it stands for. -/
@[ext (iff := false)]
structure OperatorSign where
  token : Token
  operator : Operator
  reads : Operator.ofKind? token.kind = some operator

theorem OperatorSign.eq_of_token {s s' : OperatorSign} (same : s.token = s'.token) : s = s' := by
  have operators := s.reads.symm.trans (same ▸ s'.reads)
  exact OperatorSign.ext same (Option.some.inj operators)

/-- A term without any other term in it. -/
inductive Leaf where
  | name (text : Value)
  | exactName (mark : Sign .bang) (text : Value)
  | equality (word : Sign .word) (sign : OperatorSign)
      (equal : sign.operator.isEquality = true) (mark : Option (Sign .bang)) (value : Value)
  | comparison (word : Sign .word) (sign : OperatorSign)
      (unequal : sign.operator.isEquality = false) (value : Sign .word)

/-- A combination is a list of terms and an option a list of combinations with signs between
them; both are built from their last member on. -/
inductive Derivation : Rank → Type where
  | leaf (l : Leaf) : Derivation .single
  | not (sign : Sign .not) (d : Derivation .single) : Derivation .single
  | group (opening : Sign .openParen) (d : Derivation .any) (closing : Sign .closeParen) :
      Derivation .single
  | last (d : Derivation .single) : Derivation .all
  | and (d : Derivation .single) (rest : Derivation .all) : Derivation .all
  | only (d : Derivation .all) : Derivation .any
  | or (d : Derivation .all) (sign : Sign .or) (rest : Derivation .any) : Derivation .any

namespace Leaf

def tokens : Leaf → List Token
  | name text => [text.val]
  | exactName mark text => [mark.val, text.val]
  | equality word sign _ none value => [word.val, sign.token, value.val]
  | equality word sign _ (some mark) value => [word.val, sign.token, mark.val, value.val]
  | comparison word sign _ value => [word.val, sign.token, value.val]

def term (rate : Float) : Leaf → Except QueryError Term
  | name text => .ok (.name text.val.text false)
  | exactName _ text => .ok (.name text.val.text true)
  | equality word sign _ mark value =>
    Term.ofKeyword rate word.val.text sign.operator mark.isSome value.val.text
  | comparison word sign _ value =>
    Term.ofKeyword rate word.val.text sign.operator false value.val.text

end Leaf

def andAfter (left : Option (Query .all)) (q : Query .single) : Query .all :=
  match left with
  | none => .one q
  | some p => .and p q

def orAfter (left : Option (Query .any)) (q : Query .all) : Query .any :=
  match left with
  | none => .only q
  | some p => .or p q

namespace Derivation

def tokens {r : Rank} : Derivation r → List Token
  | leaf l => l.tokens
  | not sign d => sign.val :: d.tokens
  | group opening d closing => opening.val :: (d.tokens ++ [closing.val])
  | last d => d.tokens
  | and d rest => d.tokens ++ rest.tokens
  | only d => d.tokens
  | or d sign rest => d.tokens ++ sign.val :: rest.tokens

/-- How many negations and groups stand around the deepest term. -/
def depth {r : Rank} : Derivation r → Nat
  | leaf _ => 0
  | not _ d => d.depth + 1
  | group _ d _ => d.depth + 1
  | last d => d.depth
  | and d rest => max d.depth rest.depth
  | only d => d.depth
  | or d _ rest => max d.depth rest.depth

/-- The query that a derivation stands for if every keyword term in it is accepted. Conditions
and alternatives are joined from left to right; `left` is what they have been joined to so far. -/
def query (rate : Float) {r : Rank} (left : Option (Query r)) :
    Derivation r → Except QueryError (Query r)
  | leaf l => (l.term rate).map .term
  | not _ d => (d.query rate none).map .not
  | group _ d _ => (d.query rate none).map .group
  | last d => (d.query rate none).map (andAfter left)
  | and d rest => (d.query rate none).bind fun q => rest.query rate (some (andAfter left q))
  | only d => (d.query rate none).map (orAfter left)
  | or d _ rest => (d.query rate none).bind fun q => rest.query rate (some (orAfter left q))

def snoc : Derivation .all → Derivation .single → Derivation .all
  | last d, e => and d (last e)
  | and d more, e => and d (more.snoc e)

@[simp]
theorem tokens_snoc (d : Derivation .all) (e : Derivation .single) :
    (d.snoc e).tokens = d.tokens ++ e.tokens := by
  fun_induction snoc d e with
  | case1 d e => rfl
  | case2 d more e ih => simp [tokens, ih]

def snocOr : Derivation .any → Sign .or → Derivation .all → Derivation .any
  | only d, sign, e => or d sign (only e)
  | or d sign' more, sign, e => or d sign' (more.snocOr sign e)

@[simp]
theorem tokens_snocOr (d : Derivation .any) (sign : Sign .or) (e : Derivation .all) :
    (d.snocOr sign e).tokens = d.tokens ++ sign.val :: e.tokens := by
  fun_induction snocOr d sign e with
  | case1 d sign e => rfl
  | case2 d sign' more sign e ih => simp [tokens, ih]

end Derivation

/-! ## Where a derivation ends -/

def startsTerm : TokenKind → Bool
  | .not | .openParen | .quoted | .word | .bang => true
  | _ => false

/-- Whether a token of the kind could still belong to a derivation of the rank before it. -/
def continues (rank : Rank) (kind : TokenKind) : Bool :=
  (Operator.ofKind? kind).isSome ||
    match rank with
    | .single => false
    | .all => startsTerm kind
    | .any => startsTerm kind || kind = .or

def Stops (rank : Rank) (rest : List Token) : Prop :=
  ∀ t ∈ rest.head?, continues rank t.kind = false

@[simp]
theorem stops_nil (rank : Rank) : Stops rank [] := by
  simp [Stops]

@[simp]
theorem stops_cons (rank : Rank) (t : Token) (rest : List Token) :
    Stops rank (t :: rest) ↔ continues rank t.kind = false := by
  simp [Stops]

theorem Stops.single {rank : Rank} {rest : List Token} (stops : Stops rank rest) :
    Stops .single rest := by
  intro t member
  have := stops t member
  simp_all [continues]

theorem Stops.all {rest : List Token} (stops : Stops .any rest) : Stops .all rest := by
  intro t member
  have := stops t member
  simp_all [continues]

theorem ofKind?_of_startsTerm {kind : TokenKind} (starts : startsTerm kind = true) :
    Operator.ofKind? kind = none := by
  cases kind <;> simp_all [startsTerm, Operator.ofKind?]

theorem isValue_iff (kind : TokenKind) : isValue kind = true ↔ kind = .word ∨ kind = .quoted := by
  cases kind <;> simp [isValue]

theorem startsTerm_of_isValue {kind : TokenKind} (value : isValue kind = true) :
    startsTerm kind = true := by
  cases kind <;> simp_all [isValue, startsTerm]

theorem Leaf.exists_head (l : Leaf) :
    ∃ t rest, l.tokens = t :: rest ∧ (isValue t.kind = true ∨ t.kind = .bang) := by
  have isWord (word : Sign .word) : isValue word.val.kind = true := by
    simp [word.property, isValue]
  cases l with
  | name text => exact ⟨_, _, rfl, .inl text.property⟩
  | exactName mark text => exact ⟨_, _, rfl, .inr mark.property⟩
  | equality word sign equal mark value => cases mark <;> exact ⟨_, _, rfl, .inl (isWord word)⟩
  | comparison word sign unequal value => exact ⟨_, _, rfl, .inl (isWord word)⟩

theorem Leaf.tokens_append_ne_cons (l : Leaf) {sign : Token} (rest rest' : List Token)
    (opens : sign.kind = .not ∨ sign.kind = .openParen) :
    l.tokens ++ rest ≠ sign :: rest' := by
  obtain ⟨t, more, tokens, starts⟩ := l.exists_head
  intro same
  have head : t = sign := by simp_all
  rcases opens with opens | opens <;> simp [head, opens, isValue] at starts

theorem Derivation.exists_head {r : Rank} (d : Derivation r) :
    ∃ t rest, d.tokens = t :: rest ∧ startsTerm t.kind = true := by
  induction d with
  | leaf l =>
    obtain ⟨t, rest, tokens, value | mark⟩ := l.exists_head
    · exact ⟨t, rest, tokens, startsTerm_of_isValue value⟩
    · exact ⟨t, rest, tokens, by simp [mark, startsTerm]⟩
  | not sign d ih => exact ⟨_, _, rfl, by simp [sign.property, startsTerm]⟩
  | group opening d closing ih => exact ⟨_, _, rfl, by simp [opening.property, startsTerm]⟩
  | last d ih => exact ih
  | and d more ih _ =>
    obtain ⟨t, rest, tokens, starts⟩ := ih
    exact ⟨t, rest ++ more.tokens, by simp [Derivation.tokens, tokens], starts⟩
  | only d ih => exact ih
  | or d sign more ih _ =>
    obtain ⟨t, rest, tokens, starts⟩ := ih
    exact ⟨t, rest ++ sign.val :: more.tokens, by simp [Derivation.tokens, tokens], starts⟩

theorem Derivation.stops_single {r : Rank} (d : Derivation r) (rest : List Token) :
    Stops .single (d.tokens ++ rest) := by
  obtain ⟨t, more, tokens, starts⟩ := d.exists_head
  simp [tokens, continues, ofKind?_of_startsTerm starts]

theorem Derivation.not_stops_all {r : Rank} (d : Derivation r) (rest : List Token) :
    ¬ Stops .all (d.tokens ++ rest) := by
  obtain ⟨t, more, tokens, starts⟩ := d.exists_head
  simp [tokens, continues, starts]

theorem stops_all_or (sign : Sign .or) (rest : List Token) : Stops .all (sign.val :: rest) := by
  simp [continues, sign.property, Operator.ofKind?, startsTerm]

theorem not_stops_any_or (sign : Sign .or) (rest : List Token) :
    ¬ Stops .any (sign.val :: rest) := by
  simp [continues, sign.property]

/-! ## At most one derivation -/

theorem OperatorSign.continues (sign : OperatorSign) (rank : Rank) :
    Query.continues rank sign.token.kind = true := by
  simp [Query.continues, sign.reads]

theorem Leaf.eq_of_tokens_append {l l' : Leaf} {rest rest' : List Token}
    (stops : Stops .single rest) (stops' : Stops .single rest')
    (same : l.tokens ++ rest = l'.tokens ++ rest') : l = l' ∧ rest = rest' := by
  cases l with
  | name text =>
    have := text.property
    cases l' with
    | name text' => grind [tokens]
    | exactName mark' text' => grind [tokens, isValue]
    | equality word' sign' equal' mark' value' =>
      cases mark' <;> grind [tokens, stops_cons, OperatorSign.continues]
    | comparison word' sign' unequal' value' =>
      grind [tokens, stops_cons, OperatorSign.continues]
  | exactName mark text =>
    cases l' with
    | name text' => grind [tokens, isValue]
    | exactName mark' text' => grind [tokens]
    | equality word' sign' equal' mark' value' => cases mark' <;> grind [tokens]
    | comparison word' sign' unequal' value' => grind [tokens]
  | equality word sign equal mark value =>
    cases l' with
    | name text' => cases mark <;> grind [tokens, stops_cons, OperatorSign.continues]
    | exactName mark' text' => cases mark <;> grind [tokens]
    | equality word' sign' equal' mark' value' =>
      cases mark <;> cases mark' <;> grind [tokens, isValue, OperatorSign.eq_of_token]
    | comparison word' sign' unequal' value' =>
      cases mark <;> grind [tokens, OperatorSign.eq_of_token]
  | comparison word sign unequal value =>
    cases l' with
    | name text' => grind [tokens, stops_cons, OperatorSign.continues]
    | exactName mark' text' => grind [tokens]
    | equality word' sign' equal' mark' value' =>
      cases mark' <;> grind [tokens, OperatorSign.eq_of_token]
    | comparison word' sign' unequal' value' => grind [tokens, OperatorSign.eq_of_token]

/-- What a derivation spells is the only prefix of a text that its rank can stand for. -/
theorem Derivation.eq_of_tokens_append {r : Rank} {d d' : Derivation r} {rest rest' : List Token}
    (stops : Stops r rest) (stops' : Stops r rest')
    (same : d.tokens ++ rest = d'.tokens ++ rest') : d = d' ∧ rest = rest' := by
  induction d generalizing rest rest' with
  | leaf l =>
    cases d' with
    | leaf l' =>
      obtain ⟨rfl, rests⟩ := Leaf.eq_of_tokens_append stops stops' same
      exact ⟨rfl, rests⟩
    | not sign' d' => exact absurd same (l.tokens_append_ne_cons _ _ (.inl sign'.property))
    | group opening' d' closing' =>
      exact absurd same (l.tokens_append_ne_cons _ _ (.inr opening'.property))
  | not sign d ih =>
    cases d' with
    | leaf l' => exact absurd same.symm (l'.tokens_append_ne_cons _ _ (.inl sign.property))
    | not sign' d' =>
      simp only [tokens, List.cons_append, List.cons.injEq] at same
      obtain ⟨rfl, rests⟩ := ih stops stops' same.2
      exact ⟨congrArg (not · d) (Subtype.ext same.1), rests⟩
    | group opening' d' closing' => grind [tokens]
  | group opening d closing ih =>
    have ends (sign : Sign .closeParen) (more : List Token) : Stops .any (sign.val :: more) := by
      simp [continues, sign.property, Operator.ofKind?, startsTerm]
    cases d' with
    | leaf l' => exact absurd same.symm (l'.tokens_append_ne_cons _ _ (.inr opening.property))
    | not sign' d' => grind [tokens]
    | group opening' d' closing' =>
      simp only [tokens, List.cons_append, List.append_assoc, List.cons.injEq] at same
      obtain ⟨rfl, closings⟩ := ih (ends closing rest) (ends closing' rest') same.2
      simp only [List.cons.injEq] at closings
      obtain rfl := Subtype.ext same.1
      obtain rfl := Subtype.ext closings.1
      exact ⟨rfl, closings.2⟩
  | last d ih =>
    cases d' with
    | last d' =>
      obtain ⟨rfl, rests⟩ := ih stops.single stops'.single same
      exact ⟨rfl, rests⟩
    | and d' more' =>
      simp only [tokens, List.append_assoc] at same
      obtain ⟨-, rfl⟩ := ih stops.single (more'.stops_single rest') same
      exact absurd stops (more'.not_stops_all rest')
  | and d more ih moreIh =>
    cases d' with
    | last d' =>
      simp only [tokens, List.append_assoc] at same
      obtain ⟨-, rfl⟩ := ih (more.stops_single rest) stops'.single same
      exact absurd stops' (more.not_stops_all rest)
    | and d' more' =>
      simp only [tokens, List.append_assoc] at same
      obtain ⟨rfl, rests⟩ := ih (more.stops_single rest) (more'.stops_single rest') same
      obtain ⟨rfl, final⟩ := moreIh stops stops' rests
      exact ⟨rfl, final⟩
  | only d ih =>
    cases d' with
    | only d' =>
      obtain ⟨rfl, rests⟩ := ih stops.all stops'.all same
      exact ⟨rfl, rests⟩
    | or d' sign' more' =>
      simp only [tokens, List.append_assoc] at same
      obtain ⟨-, rfl⟩ := ih stops.all (stops_all_or sign' _) same
      exact absurd stops (not_stops_any_or sign' _)
  | or d sign more ih moreIh =>
    cases d' with
    | only d' =>
      simp only [tokens, List.append_assoc] at same
      obtain ⟨-, rfl⟩ := ih (stops_all_or sign _) stops'.all same
      exact absurd stops' (not_stops_any_or sign _)
    | or d' sign' more' =>
      simp only [tokens, List.append_assoc] at same
      obtain ⟨rfl, rests⟩ := ih (stops_all_or sign _) (stops_all_or sign' _) same
      simp only [List.cons.injEq] at rests
      obtain ⟨rfl, final⟩ := moreIh stops stops' rests.2
      obtain rfl := Subtype.ext rests.1
      exact ⟨rfl, final⟩

theorem Derivation.eq_of_tokens_eq {d d' : Derivation .any} (same : d.tokens = d'.tokens) :
    d = d' := by
  have unique := eq_of_tokens_append (stops_nil .any) (stops_nil .any) (congrArg (· ++ []) same)
  exact unique.1

end CardCatalog.Query
