import CardCatalog.Proofs.Query.Joining
import CardCatalog.Proofs.Query.Parsing
import CardCatalog.Proofs.Query.Precedence

/-!
Search texts that are put together from others. Main statement: joining two texts with `or` or
with a blank, negating one and setting one in parentheses does to their conditions what it says.
-/

set_option autoImplicit false

namespace CardCatalog.Query

/-! ## Derivations from moved tokens -/

def shiftSign {kind : TokenKind} (n : Nat) (sign : Sign kind) : Sign kind :=
  ⟨sign.val.shift n, sign.property⟩

def shiftValue (n : Nat) (value : Value) : Value :=
  ⟨value.val.shift n, value.property⟩

def OperatorSign.shift (n : Nat) (sign : OperatorSign) : OperatorSign :=
  ⟨sign.token.shift n, sign.operator, sign.reads⟩

def Leaf.shift (n : Nat) : Leaf → Leaf
  | name text => name (shiftValue n text)
  | exactName mark text => exactName (shiftSign n mark) (shiftValue n text)
  | equality word sign equal mark value =>
    equality (shiftSign n word) (sign.shift n) equal (mark.map (shiftSign n)) (shiftValue n value)
  | comparison word sign unequal value =>
    comparison (shiftSign n word) (sign.shift n) unequal (shiftSign n value)

theorem Leaf.tokens_shift (n : Nat) (l : Leaf) :
    (l.shift n).tokens = l.tokens.map (Token.shift n) := by
  cases l with
  | equality word sign equal mark value => cases mark <;> rfl
  | _ => rfl

theorem Leaf.term_shift (rate : Float) (n : Nat) (l : Leaf) :
    (l.shift n).term rate = l.term rate := by
  cases l with
  | equality word sign equal mark value => cases mark <;> rfl
  | _ => rfl

namespace Derivation

def shift (n : Nat) {r : Rank} : Derivation r → Derivation r
  | leaf l => leaf (l.shift n)
  | not sign d => not (shiftSign n sign) (d.shift n)
  | group opening d closing => group (shiftSign n opening) (d.shift n) (shiftSign n closing)
  | last d => last (d.shift n)
  | and d rest => and (d.shift n) (rest.shift n)
  | only d => only (d.shift n)
  | or d sign rest => or (d.shift n) (shiftSign n sign) (rest.shift n)

section

variable {r : Rank} (n : Nat) (d : Derivation r)

theorem tokens_shift : (d.shift n).tokens = d.tokens.map (Token.shift n) := by
  induction d with
  | leaf l => exact l.tokens_shift n
  | not sign d ih => simp [shift, tokens, ih, shiftSign]
  | group opening d closing ih => simp [shift, tokens, ih, shiftSign]
  | last d ih | only d ih => exact ih
  | and d rest ih restIh => simp [shift, tokens, ih, restIh]
  | or d sign rest ih restIh => simp [shift, tokens, ih, restIh, shiftSign]

theorem depth_shift : (d.shift n).depth = d.depth := by
  induction d with
  | leaf l => rfl
  | not sign d ih | group opening d closing ih => simp [shift, depth, ih]
  | last d ih | only d ih => exact ih
  | and d rest ih restIh | or d sign rest ih restIh => simp [shift, depth, ih, restIh]

theorem query_shift (rate : Float) (left : Option (Query r)) :
    (d.shift n).query rate left = d.query rate left := by
  induction d with
  | leaf l => simp [shift, query, l.term_shift]
  | not sign d ih | group opening d closing ih => simp [shift, query, ih]
  | last d ih | only d ih => simp [shift, query, ih]
  | and d rest ih restIh | or d sign rest ih restIh => simp [shift, query, ih, restIh]

end

end Derivation

/-! ## Queries one after the other -/

-- The reader joins from left to right, so the second query is taken apart and joined anew.
def conjoin (p : Query .all) : Query .all → Query .all
  | one q => and p q
  | and q r => and (conjoin p q) r

def disjoin (p : Query .any) : Query .any → Query .any
  | only q => or p q
  | or q r => or (disjoin p q) r

theorem conjoin_andAfter (p : Query .all) (left : Option (Query .all)) (q : Query .single) :
    conjoin p (andAfter left q) = andAfter (some (left.elim p (conjoin p))) q := by
  cases left <;> simp only [andAfter, conjoin, Option.elim]

theorem disjoin_orAfter (p : Query .any) (left : Option (Query .any)) (q : Query .all) :
    disjoin p (orAfter left q) = orAfter (some (left.elim p (disjoin p))) q := by
  cases left <;> simp only [orAfter, disjoin, Option.elim]

theorem Fragment.join_assoc (glue : String) (f g h : Fragment) :
    join glue (join glue f g) h = join glue f (join glue g h) := by
  simp [join, String.append_assoc]

theorem fragment_conjoin (p q : Query .all) :
    (conjoin p q).fragment = p.fragment.and q.fragment := by
  fun_induction conjoin p q with
  | case1 q => rfl
  | case2 q r ih =>
    simp only [fragment, ih]
    exact Fragment.join_assoc "AND" _ _ _

theorem fragment_disjoin (p q : Query .any) :
    (disjoin p q).fragment = p.fragment.or q.fragment := by
  fun_induction disjoin p q with
  | case1 q => rfl
  | case2 q r ih =>
    simp only [fragment, ih]
    exact Fragment.join_assoc "OR" _ _ _

namespace Derivation

def join : Derivation .all → Derivation .all → Derivation .all
  | last d, e => and d e
  | and d rest, e => and d (rest.join e)

def joinOr : Derivation .any → Sign .or → Derivation .any → Derivation .any
  | only d, sign, e => or d sign e
  | or d sign' rest, sign, e => or d sign' (rest.joinOr sign e)

section

variable (rate : Float)

theorem tokens_join (d e : Derivation .all) : (d.join e).tokens = d.tokens ++ e.tokens := by
  fun_induction join d e with
  | case1 d e => rfl
  | case2 d rest e ih => simp [tokens, ih]

theorem depth_join (d e : Derivation .all) : (d.join e).depth = max d.depth e.depth := by
  fun_induction join d e with
  | case1 d e => rfl
  | case2 d rest e ih => simp [depth, ih, max_assoc]

theorem query_join (d e : Derivation .all) (left : Option (Query .all)) :
    (d.join e).query rate left = (d.query rate left).bind fun q => e.query rate (some q) := by
  fun_induction join d e generalizing left with
  | case1 d e => simp only [query, bind_map]
  | case2 d rest e ih => simp only [query, ih, bind_assoc]

theorem tokens_joinOr (d : Derivation .any) (sign : Sign .or) (e : Derivation .any) :
    (d.joinOr sign e).tokens = d.tokens ++ sign.val :: e.tokens := by
  fun_induction joinOr d sign e with
  | case1 d sign e => rfl
  | case2 d sign' rest sign e ih => simp [tokens, ih]

theorem depth_joinOr (d : Derivation .any) (sign : Sign .or) (e : Derivation .any) :
    (d.joinOr sign e).depth = max d.depth e.depth := by
  fun_induction joinOr d sign e with
  | case1 d sign e => rfl
  | case2 d sign' rest sign e ih => simp [depth, ih, max_assoc]

theorem query_joinOr (d : Derivation .any) (sign : Sign .or) (e : Derivation .any)
    (left : Option (Query .any)) :
    (d.joinOr sign e).query rate left =
      (d.query rate left).bind fun q => e.query rate (some q) := by
  fun_induction joinOr d sign e generalizing left with
  | case1 d sign e => simp only [query, bind_map]
  | case2 d sign' rest sign e ih => simp only [query, ih, bind_assoc]

-- What conditions were joined to before can as well be joined to them at the end.
theorem query_conjoin (d : Derivation .all) (p : Query .all) (left : Option (Query .all)) :
    d.query rate (some (left.elim p (conjoin p))) = (d.query rate left).map (conjoin p) := by
  match d with
  | last d =>
    simp only [query]
    cases d.query rate none with
    | error e => rfl
    | ok q => exact congrArg Except.ok (conjoin_andAfter p left q).symm
  | and d rest =>
    simp only [query]
    cases d.query rate none with
    | error e => rfl
    | ok q =>
      simp only [bind_ok]
      rw [← rest.query_conjoin p (some (andAfter left q)), Option.elim, conjoin_andAfter]

theorem query_disjoin (d : Derivation .any) (p : Query .any) (left : Option (Query .any)) :
    d.query rate (some (left.elim p (disjoin p))) = (d.query rate left).map (disjoin p) := by
  match d with
  | only d =>
    simp only [query]
    cases d.query rate none with
    | error e => rfl
    | ok q => exact congrArg Except.ok (disjoin_orAfter p left q).symm
  | or d sign rest =>
    simp only [query]
    cases d.query rate none with
    | error e => rfl
    | ok q =>
      simp only [bind_ok]
      rw [← rest.query_disjoin p (some (orAfter left q)), Option.elim, disjoin_orAfter]

end

end Derivation

/-! ## Alternatives outside of parentheses -/

/-- Whether the sign between alternatives stands outside of all parentheses. -/
def JoinsAlternatives (ts : List Token) : Prop :=
  ∃ before t after, ts = before ++ t :: after ∧ t.kind = .or ∧
    before.countP (·.kind = .openParen) = before.countP (·.kind = .closeParen)

theorem Leaf.kind_of_mem (l : Leaf) {t : Token} (member : t ∈ l.tokens) :
    t.kind ≠ .openParen ∧ t.kind ≠ .closeParen := by
  have plain {kind : TokenKind} (sign : Sign kind)
      (other : kind ≠ .openParen ∧ kind ≠ .closeParen) :
      sign.val.kind ≠ .openParen ∧ sign.val.kind ≠ .closeParen := by
    rwa [sign.property]
  have value (v : Value) : v.val.kind ≠ .openParen ∧ v.val.kind ≠ .closeParen := by
    rcases (isValue_iff _).1 v.property with kind | kind <;> simp [kind]
  have operator (s : OperatorSign) :
      s.token.kind ≠ .openParen ∧ s.token.kind ≠ .closeParen := by
    have reads := s.reads
    constructor <;> intro kind <;> simp [kind, Operator.ofKind?] at reads
  cases l with
  | name text =>
    obtain rfl := List.mem_singleton.1 member
    exact value text
  | exactName mark text =>
    rcases List.mem_pair.1 member with rfl | rfl
    next => exact plain mark (by decide)
    next => exact value text
  | equality word sign equal mark v =>
    cases mark with
    | none =>
      simp only [tokens, List.mem_cons, List.not_mem_nil, or_false] at member
      rcases member with rfl | rfl | rfl
      next => exact plain word (by decide)
      next => exact operator sign
      next => exact value v
    | some mark =>
      simp only [tokens, List.mem_cons, List.not_mem_nil, or_false] at member
      rcases member with rfl | rfl | rfl | rfl
      next => exact plain word (by decide)
      next => exact operator sign
      next => exact plain mark (by decide)
      next => exact value v
  | comparison word sign unequal v =>
    simp only [tokens, List.mem_cons, List.not_mem_nil, or_false] at member
    rcases member with rfl | rfl | rfl
    next => exact plain word (by decide)
    next => exact operator sign
    next => exact plain v (by decide)

namespace Derivation

theorem balanced {r : Rank} (d : Derivation r) :
    d.tokens.countP (·.kind = .openParen) = d.tokens.countP (·.kind = .closeParen) := by
  induction d with
  | leaf l =>
    have opens : l.tokens.countP (·.kind = .openParen) = 0 := by
      simpa [List.countP_eq_zero] using fun t member => (l.kind_of_mem member).1
    have closes : l.tokens.countP (·.kind = .closeParen) = 0 := by
      simpa [List.countP_eq_zero] using fun t member => (l.kind_of_mem member).2
    exact opens.trans closes.symm
  | not sign d ih => simpa [tokens, sign.property] using ih
  | group opening d closing ih =>
    simp [tokens, opening.property, closing.property, ih]
  | last d ih | only d ih => exact ih
  | and d rest ih restIh => simp [tokens, ih, restIh]
  | or d sign rest ih restIh => simp [tokens, sign.property, ih, restIh]

theorem exists_only {d : Derivation .any} (plain : ¬ JoinsAlternatives d.tokens) :
    ∃ a, d = .only a := by
  cases d with
  | only a => exact ⟨a, rfl⟩
  | or a sign rest =>
    exact absurd ⟨a.tokens, sign.val, rest.tokens, rfl, sign.property, a.balanced⟩ plain

end Derivation

/-! ## Conditions of joined tokens -/

theorem parse_tokens_eq_some_iff {rate : Float} {d : Derivation .any} {q : Query .any} :
    parse rate d.tokens = .ok (some q) ↔ d.depth ≤ maxNesting ∧ d.query rate none = .ok q := by
  rw [parse_eq_some_iff]
  constructor
  next =>
    rintro ⟨e, same, reads⟩
    rwa [Derivation.eq_of_tokens_eq same] at reads
  next => exact fun reads => ⟨d, rfl, reads⟩

/-- Whether the tokens are those of a query with the condition. -/
def Denotes (rate : Float) (ts : List Token) (f : Fragment) : Prop :=
  ∃ q, parse rate ts = .ok (some q) ∧ q.fragment = f

namespace Denotes

section

variable {rate : Float} {f g : Fragment}

theorem or {d e : Derivation .any} (n : Nat) (sign : Sign .or) (first : Denotes rate d.tokens f)
    (second : Denotes rate e.tokens g) :
    Denotes rate (d.tokens ++ sign.val :: e.tokens.map (Token.shift n)) (f.or g) := by
  obtain ⟨p, parses, rfl⟩ := first
  obtain ⟨q, parses', rfl⟩ := second
  obtain ⟨shallow, stands⟩ := parse_tokens_eq_some_iff.1 parses
  obtain ⟨shallow', stands'⟩ := parse_tokens_eq_some_iff.1 parses'
  refine ⟨disjoin p q, ?_, fragment_disjoin p q⟩
  rw [← e.tokens_shift, ← d.tokens_joinOr, parse_tokens_eq_some_iff, d.depth_joinOr, e.depth_shift]
  refine ⟨max_le shallow shallow', ?_⟩
  have joined : e.query rate (some p) = .ok (disjoin p q) := by
    simpa [stands', Except.map] using e.query_disjoin rate p none
  rw [d.query_joinOr, stands, bind_ok, e.query_shift, joined]

theorem and {a b : Derivation .all} (n : Nat) (first : Denotes rate a.tokens f)
    (second : Denotes rate b.tokens g) :
    Denotes rate (a.tokens ++ b.tokens.map (Token.shift n)) (f.and g) := by
  obtain ⟨p, parses, rfl⟩ := first
  obtain ⟨q, parses', rfl⟩ := second
  obtain ⟨shallow, stands⟩ := (@parse_tokens_eq_some_iff _ (.only a) _).1 parses
  obtain ⟨shallow', stands'⟩ := (@parse_tokens_eq_some_iff _ (.only b) _).1 parses'
  obtain ⟨p, inner, rfl⟩ := map_eq_ok_iff.1 stands
  obtain ⟨q, inner', rfl⟩ := map_eq_ok_iff.1 stands'
  refine ⟨.only (conjoin p q), ?_, fragment_conjoin p q⟩
  rw [← b.tokens_shift, ← a.tokens_join]
  refine (@parse_tokens_eq_some_iff _ (.only (a.join (b.shift n))) _).2 ⟨?_, ?_⟩
  next =>
    rw [Derivation.depth, a.depth_join, b.depth_shift]
    exact max_le shallow shallow'
  next =>
    have joined : b.query rate (some p) = .ok (conjoin p q) := by
      simpa [inner', Except.map] using b.query_conjoin rate p none
    rw [Derivation.query, a.query_join, inner, bind_ok, b.query_shift, joined]
    rfl

theorem negate {d : Derivation .single} (n : Nat) (sign : Sign .not) (shallow : d.depth ≤ 127)
    (denotes : Denotes rate d.tokens f) :
    Denotes rate (sign.val :: d.tokens.map (Token.shift n)) f.negate := by
  obtain ⟨q, parses, rfl⟩ := denotes
  obtain ⟨-, stands⟩ := (@parse_tokens_eq_some_iff _ (.only (.last d)) _).1 parses
  obtain ⟨p, inner, rfl⟩ := map_eq_ok_iff.1 stands
  obtain ⟨q, innermost, rfl⟩ := map_eq_ok_iff.1 inner
  refine ⟨.only (.one (.not q)), ?_, rfl⟩
  rw [← d.tokens_shift]
  refine (@parse_tokens_eq_some_iff _ (.only (.last (.not sign (d.shift n)))) _).2 ⟨?_, ?_⟩
  next =>
    simp only [Derivation.depth, d.depth_shift]
    exact Nat.succ_le_succ shallow
  next =>
    simp only [Derivation.query, d.query_shift, innermost]
    rfl

theorem group {d : Derivation .any} (n : Nat) (opening : Sign .openParen)
    (closing : Sign .closeParen) (shallow : d.depth ≤ 127) (denotes : Denotes rate d.tokens f) :
    Denotes rate (opening.val :: (d.tokens.map (Token.shift n) ++ [closing.val])) f.group := by
  obtain ⟨q, parses, rfl⟩ := denotes
  obtain ⟨-, stands⟩ := parse_tokens_eq_some_iff.1 parses
  refine ⟨.only (.one (.group q)), ?_, rfl⟩
  rw [← d.tokens_shift]
  refine (@parse_tokens_eq_some_iff _
    (.only (.last (.group opening (d.shift n) closing))) _).2 ⟨?_, ?_⟩
  next =>
    simp only [Derivation.depth, d.depth_shift]
    exact Nat.succ_le_succ shallow
  next =>
    simp only [Derivation.query, d.query_shift, stands]
    rfl

end

end Denotes

/-! ## Conditions of joined texts -/

section

variable {rate : Float} {text : String} {f : Fragment}

theorem denotes_tokens (compiles : (compile rate text).map conditionOf = .ok f)
    (nonempty : f.isEmpty = false) : Denotes rate (tokens text) f := by
  obtain ⟨_ | q, parses, rfl⟩ := map_eq_ok_iff.1 compiles
  next => cases nonempty
  next => exact ⟨q, parses, rfl⟩

theorem Denotes.exists_tokens {ts : List Token} (denotes : Denotes rate ts f) :
    ∃ d : Derivation .any, d.tokens = ts := by
  obtain ⟨q, parses, -⟩ := denotes
  exact exists_derivation_of_parse parses

theorem Denotes.compile (denotes : Denotes rate (tokens text) f) :
    (compile rate text).map conditionOf = .ok f := by
  obtain ⟨q, parses, rfl⟩ := denotes
  exact map_eq_ok_iff.2 ⟨some q, parses, rfl⟩

end

/-- Texts with conditions are joined, negated and grouped as their conditions are, and what is
illegal in them stays so. -/
theorem compile_joined {rate : Float} {s t : String} {f g : Fragment}
    (first : (compile rate s).map conditionOf = .ok f) (someFirst : f.isEmpty = false)
    (second : (compile rate t).map conditionOf = .ok g) (someSecond : g.isEmpty = false)
    (closed : ∀ i ∈ illegalChars s, isQuote i.char = false) :
    (compile rate (s ++ " or " ++ t)).map conditionOf = .ok (f.or g) ∧
    (¬ JoinsAlternatives (tokens s) → ¬ JoinsAlternatives (tokens t) →
      (compile rate (s ++ " " ++ t)).map conditionOf = .ok (f.and g)) ∧
    ((∃ d : Derivation .single, d.tokens = tokens s ∧ d.depth ≤ 127) →
      (compile rate ("-" ++ s)).map conditionOf = .ok f.negate) ∧
    ((∃ d : Derivation .any, d.tokens = tokens s ∧ d.depth ≤ 127) →
      (compile rate ("(" ++ s ++ ")")).map conditionOf = .ok ⟨"( " ++ f.sql ++ " )", f.params⟩) ∧
    illegalChars (s ++ " or " ++ t) =
      illegalChars s ++ (illegalChars t).map (IllegalChar.shift (s.utf8ByteSize + 4)) ∧
    illegalChars (s ++ " " ++ t) =
      illegalChars s ++ (illegalChars t).map (IllegalChar.shift (s.utf8ByteSize + 1)) ∧
    illegalChars ("-" ++ s) = (illegalChars s).map (IllegalChar.shift 1) ∧
    illegalChars ("(" ++ s ++ ")") = (illegalChars s).map (IllegalChar.shift 1) := by
  have left := denotes_tokens first someFirst
  have right := denotes_tokens second someSecond
  obtain ⟨d, tokens_s⟩ := left.exists_tokens
  obtain ⟨e, tokens_t⟩ := right.exists_tokens
  -- Tokens of the second text come with their offsets moved, which no condition depends on.
  refine ⟨?_, ?_, ?_, ?_, illegalChars_joined_or closed, illegalChars_joined closed,
    illegalChars_negated s, illegalChars_grouped closed⟩
  next =>
    rw [← tokens_s] at left
    rw [← tokens_t] at right
    refine Denotes.compile ?_
    rw [tokens_joined_or closed, ← tokens_s, ← tokens_t]
    exact left.or (s.utf8ByteSize + 4) ⟨⟨.or, "or", s.utf8ByteSize + 1⟩, rfl⟩ right
  next =>
    intro plain plain'
    obtain ⟨a, rfl⟩ := Derivation.exists_only (tokens_s ▸ plain)
    obtain ⟨b, rfl⟩ := Derivation.exists_only (tokens_t ▸ plain')
    rw [← tokens_s] at left
    rw [← tokens_t] at right
    refine Denotes.compile ?_
    rw [tokens_joined closed, ← tokens_s, ← tokens_t]
    exact Denotes.and (s.utf8ByteSize + 1) left right
  next =>
    rintro ⟨d, tokens_s, shallow⟩
    rw [← tokens_s] at left
    refine Denotes.compile ?_
    rw [tokens_negated, ← tokens_s]
    exact left.negate 1 ⟨⟨.not, "-", 0⟩, rfl⟩ shallow
  next =>
    rintro ⟨d, tokens_s, shallow⟩
    rw [← tokens_s] at left
    refine Denotes.compile ?_
    rw [tokens_grouped closed, ← tokens_s]
    exact left.group 1 ⟨⟨.openParen, "(", 0⟩, rfl⟩ ⟨⟨.closeParen, ")", s.utf8ByteSize + 1⟩, rfl⟩
      shallow

-- The first text has an illegal character, the second a quote that is left open.
theorem compile_joined_negated_type :
    ∃ f g : Fragment,
      ((compile 1 "-t:elf@").map conditionOf = .ok f ∧ f.isEmpty = false ∧
        (compile 1 "'b").map conditionOf = .ok g ∧ g.isEmpty = false ∧
        (∀ i ∈ illegalChars "-t:elf@", isQuote i.char = false) ∧
        ¬ JoinsAlternatives (tokens "-t:elf@") ∧ ¬ JoinsAlternatives (tokens "'b") ∧
        (∃ d : Derivation .single, d.tokens = tokens "-t:elf@" ∧ d.depth ≤ 127) ∧
        ∃ d : Derivation .any, d.tokens = tokens "-t:elf@" ∧ d.depth ≤ 127) ∧
      (compile 1 ("-t:elf@" ++ " or " ++ "'b")).map conditionOf = .ok (f.or g) ∧
      (compile 1 ("-t:elf@" ++ " " ++ "'b")).map conditionOf = .ok (f.and g) ∧
      (compile 1 ("-" ++ "-t:elf@")).map conditionOf = .ok f.negate ∧
      (compile 1 ("(" ++ "-t:elf@" ++ ")")).map conditionOf =
        .ok ⟨"( " ++ f.sql ++ " )", f.params⟩ ∧
      illegalChars ("-t:elf@" ++ " or " ++ "'b") = [⟨'@', 6⟩, ⟨'\'', 11⟩] := by
  have tokens_s : tokens "-t:elf@" =
      [⟨.not, "-", 0⟩, ⟨.word, "t", 1⟩, ⟨.colon, ":", 2⟩, ⟨.word, "elf", 3⟩] := by
    cbv
  have illegal_s : illegalChars "-t:elf@" = [⟨'@', 6⟩] := by cbv
  have tokens_t : tokens "'b" = [⟨.word, "b", 1⟩] := by cbv
  have illegal_t : illegalChars "'b" = [⟨'\'', 0⟩] := by cbv
  have parses : compile 1 "-t:elf@" =
      .ok (some (.only (.one (.not (.term (.type "elf")))))) := by
    cbv
  have parses' : compile 1 "'b" = .ok (some (.only (.one (.term (.name "b" false))))) := by
    cbv
  have compiles := congrArg (Except.map conditionOf) parses
  have compiles' := congrArg (Except.map conditionOf) parses'
  have closed : ∀ i ∈ illegalChars "-t:elf@", isQuote i.char = false := by
    rw [illegal_s]
    decide
  have plain {ts : List Token} (other : ∀ t ∈ ts, t.kind ≠ .or) : ¬ JoinsAlternatives ts := by
    rintro ⟨before, t, after, rfl, kind, -⟩
    exact other t (by simp) kind
  have plain_s : ¬ JoinsAlternatives (tokens "-t:elf@") := plain (by simp [tokens_s])
  have plain_t : ¬ JoinsAlternatives (tokens "'b") := plain (by simp [tokens_t])
  let d : Derivation .single :=
    .not ⟨⟨.not, "-", 0⟩, rfl⟩ (.leaf (.equality ⟨⟨.word, "t", 1⟩, rfl⟩
      ⟨⟨.colon, ":", 2⟩, .colon, rfl⟩ rfl none ⟨⟨.word, "elf", 3⟩, rfl⟩))
  have single : d.tokens = tokens "-t:elf@" ∧ d.depth ≤ 127 := ⟨tokens_s.symm, by decide⟩
  have whole : (Derivation.only (.last d)).tokens = tokens "-t:elf@" ∧
      (Derivation.only (.last d)).depth ≤ 127 := single
  obtain ⟨joined_or, joined, negated, grouped, illegal, -⟩ :=
    compile_joined compiles (isEmpty_fragment _) compiles' (isEmpty_fragment _) closed
  refine ⟨_, _, ⟨compiles, isEmpty_fragment _, compiles', isEmpty_fragment _, closed, plain_s,
    plain_t, ⟨d, single⟩, _, whole⟩, joined_or, joined plain_s plain_t, negated ⟨d, single⟩,
    grouped ⟨_, whole⟩, ?_⟩
  rw [illegal, illegal_s, illegal_t]
  rfl

end CardCatalog.Query
