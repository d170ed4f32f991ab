import CardCatalog.Proofs.Query.Spelling

/-!
Which lists of tokens can be completed to a query. A term stands in a derivation after some
tokens, with some negations and groups around it. Main statement: whatever the reader has read
can be completed, and wherever it expects a term any term can stand, as deep as the reader is.
-/

set_option autoImplicit false

namespace CardCatalog.Query

/-- The derivation holds the term `e` after the tokens `ts`, with `n` negations and groups
around it. -/
inductive Derivation.Contains :
    {r : Rank} → Derivation r → List Token → Nat → Derivation .single → Prop where
  | self (e : Derivation .single) : Contains e [] 0 e
  | not (sign : Sign .not) {d e : Derivation .single} {ts : List Token} {n : Nat} :
      Contains d ts n e → Contains (.not sign d) (sign.val :: ts) (n + 1) e
  | group (opening : Sign .openParen) (closing : Sign .closeParen) {d : Derivation .any}
      {e : Derivation .single} {ts : List Token} {n : Nat} :
      Contains d ts n e → Contains (.group opening d closing) (opening.val :: ts) (n + 1) e
  | last {d e : Derivation .single} {ts : List Token} {n : Nat} :
      Contains d ts n e → Contains (.last d) ts n e
  | and (rest : Derivation .all) {d e : Derivation .single} {ts : List Token} {n : Nat} :
      Contains d ts n e → Contains (.and d rest) ts n e
  | andRest (d : Derivation .single) {rest : Derivation .all} {e : Derivation .single}
      {ts : List Token} {n : Nat} :
      Contains rest ts n e → Contains (.and d rest) (d.tokens ++ ts) n e
  | only {d : Derivation .all} {e : Derivation .single} {ts : List Token} {n : Nat} :
      Contains d ts n e → Contains (.only d) ts n e
  | or (sign : Sign .or) (rest : Derivation .any) {d : Derivation .all}
      {e : Derivation .single} {ts : List Token} {n : Nat} :
      Contains d ts n e → Contains (.or d sign rest) ts n e
  | orRest (d : Derivation .all) (sign : Sign .or) {rest : Derivation .any}
      {e : Derivation .single} {ts : List Token} {n : Nat} :
      Contains rest ts n e → Contains (.or d sign rest) (d.tokens ++ sign.val :: ts) n e

namespace Derivation

section

variable {r : Rank} {d : Derivation r} {e f : Derivation .single} {ts us : List Token} {m n : Nat}

theorem Contains.trans (outside : d.Contains ts m e) (inside : e.Contains us n f) :
    d.Contains (ts ++ us) (m + n) f := by
  induction outside with
  | self e =>
    rw [Nat.zero_add]
    exact inside
  | not sign _ ih =>
    rw [Nat.add_right_comm]
    exact .not sign (ih inside)
  | group opening closing _ ih =>
    rw [Nat.add_right_comm]
    exact .group opening closing (ih inside)
  | last _ ih => exact .last (ih inside)
  | and rest _ ih => exact .and rest (ih inside)
  | andRest d _ ih =>
    rw [List.append_assoc]
    exact .andRest d (ih inside)
  | only _ ih => exact .only (ih inside)
  | or sign rest _ ih => exact .or sign rest (ih inside)
  | orRest d sign _ ih =>
    rw [List.append_assoc, List.cons_append]
    exact .orRest d sign (ih inside)

theorem Contains.exists_tokens (contains : d.Contains ts n e) :
    ∃ rest, d.tokens = ts ++ (e.tokens ++ rest) := by
  induction contains with
  | self e => exact ⟨[], by simp⟩
  | not sign _ ih =>
    obtain ⟨rest, same⟩ := ih
    exact ⟨rest, by simp [tokens, same]⟩
  | group opening closing _ ih =>
    obtain ⟨rest, same⟩ := ih
    exact ⟨rest ++ [closing.val], by simp [tokens, same]⟩
  | last _ ih | only _ ih => exact ih
  | and more _ ih =>
    obtain ⟨rest, same⟩ := ih
    exact ⟨rest ++ more.tokens, by simp [tokens, same]⟩
  | andRest d _ ih | orRest d sign _ ih =>
    obtain ⟨rest, same⟩ := ih
    exact ⟨rest, by simp [tokens, same]⟩
  | or sign more _ ih =>
    obtain ⟨rest, same⟩ := ih
    exact ⟨rest ++ sign.val :: more.tokens, by simp [tokens, same]⟩

theorem Contains.snoc (d : Derivation .all) (e : Derivation .single) :
    (d.snoc e).Contains d.tokens 0 e := by
  fun_induction Derivation.snoc d e with
  | case1 d e =>
    rw [tokens, ← List.append_nil d.tokens]
    exact .andRest d (.last (.self e))
  | case2 d more e ih => exact .andRest d ih

theorem Contains.snocOr {a : Derivation .all} (d : Derivation .any) (sign : Sign .or)
    (contains : a.Contains ts n e) :
    (d.snocOr sign a).Contains (d.tokens ++ sign.val :: ts) n e := by
  fun_induction Derivation.snocOr d sign a with
  | case1 d sign a => exact .orRest d sign (.only contains)
  | case2 d sign' more sign a ih =>
    rw [tokens, List.append_assoc, List.cons_append]
    exact .orRest d sign' (ih contains)

end

end Derivation

/-! ## Completing what has been read -/

section

variable {b : Before} {enclosing : List Before} {ts outer : List Token}

theorem Before.Spells.exists_contains_all {alternatives : Option (Query .any)}
    (spells : Before.Spells ⟨alternatives, none, 0⟩ ts) {a : Derivation .all}
    {e : Derivation .single} {us : List Token} {n : Nat} (contains : a.Contains us n e) :
    ∃ d : Derivation .any, d.Contains (ts ++ us) n e := by
  cases spells with
  | start => exact ⟨.only a, .only contains⟩
  | alternatives p d sign =>
    refine ⟨d.snocOr sign a, ?_⟩
    simpa using Derivation.Contains.snocOr d sign contains

theorem Before.Spells.exists_contains (spells : b.Spells ts) (e : Derivation .single) :
    ∃ d : Derivation .any, d.Contains ts b.negations e := by
  -- A negation takes the term below it, so the term varies along the induction.
  induction spells generalizing e with
  | start => exact ⟨.only (.last e), .only (.last (.self e))⟩
  | alternatives p d sign =>
    have begins : Before.Spells ⟨some p, none, 0⟩ (d.tokens ++ [sign.val]) :=
      .alternatives p d sign
    simpa using begins.exists_contains_all (.last (.self e))
  | conditions p d before => exact before.exists_contains_all (.snoc d e)
  | negation sign before ih =>
    obtain ⟨d, contains⟩ := ih (.not sign e)
    exact ⟨d, contains.trans (.not sign (.self e))⟩

def closing : Sign .closeParen := ⟨⟨.closeParen, ")", 0⟩, rfl⟩

theorem Encloses.exists_contains (encloses : Encloses enclosing outer) (spells : b.Spells ts)
    (e : Derivation .single) :
    ∃ d : Derivation .any,
      d.Contains (outer ++ ts) (Parser.depth ⟨enclosing, .term b⟩) e := by
  induction encloses generalizing b ts e with
  | nil => exact spells.exists_contains e
  | @cons enclosing outside outer before opening _ here ih =>
    obtain ⟨inner, contains⟩ := spells.exists_contains e
    obtain ⟨d, group⟩ := ih here (.group opening inner closing)
    have deeper := group.trans (.group opening closing contains)
    have depths : Parser.depth ⟨outside :: enclosing, .term b⟩ =
        Parser.depth ⟨enclosing, .term outside⟩ + (b.negations + 1) := by
      simp only [Parser.depth, Position.negations, List.foldr_cons]
      omega
    refine ⟨d, ?_⟩
    rw [depths]
    simpa using deeper

end

/-! ## Lists of tokens that can be completed -/

def Grammatical (ts : List Token) : Prop :=
  ∃ d : Derivation .any, d.tokens = ts

/-- Whether a list of tokens is the front of a grammatical one, however deep that one nests. -/
def Viable (ts : List Token) : Prop :=
  ∃ rest, Grammatical (ts ++ rest)

theorem Derivation.Contains.viable {d : Derivation .any} {e : Derivation .single}
    {ts front : List Token} {n : Nat} (contains : d.Contains ts n e)
    (starts : front <+: e.tokens) : Viable (ts ++ front) := by
  obtain ⟨rest, same⟩ := contains.exists_tokens
  obtain ⟨more, whole⟩ := starts
  exact ⟨more ++ rest, d, by simp [same, ← whole]⟩

def someWord : Sign .word := ⟨⟨.word, "x", 0⟩, rfl⟩

def someValue : Value := ⟨someWord.val, rfl⟩

namespace Parser

theorem Spells.viable {p : Parser} {ts : List Token} (spells : p.Spells ts) : Viable ts := by
  obtain @⟨enclosing, position, outer, inner, encloses, here⟩ := spells
  -- At each position what has been read of a term is the front of a whole one.
  have completed {b : Before} {ts front : List Token} (before : b.Spells ts) (l : Leaf)
      (starts : front <+: l.tokens) : Viable (outer ++ (ts ++ front)) := by
    obtain ⟨d, contains⟩ := encloses.exists_contains before (.leaf l)
    simpa using contains.viable starts
  cases here with
  | term before =>
    have next := completed before (.name someValue) List.nil_prefix
    simpa using next
  | word word before =>
    have isName : isValue word.val.kind = true := by simp [word.property, isValue]
    exact completed before (.name ⟨word.val, isName⟩) (List.prefix_refl _)
  | exactName mark before => exact completed before (.exactName mark someValue) ⟨[_], rfl⟩
  | value word sign equal before =>
    exact completed before (.equality word sign equal none someValue) ⟨[_], rfl⟩
  | exactValue word sign equal mark before =>
    exact completed before (.equality word sign equal (some mark) someValue) ⟨[_], rfl⟩
  | operand word sign unequal before =>
    exact completed before (.comparison word sign unequal someWord) ⟨[_], rfl⟩
  | after spelled =>
    obtain ⟨p, d, before⟩ := spelled
    have next := completed (.conditions p d before) (.name someValue) List.nil_prefix
    simpa using next

end Parser

end CardCatalog.Query
