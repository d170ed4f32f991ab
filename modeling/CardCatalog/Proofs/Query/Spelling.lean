import CardCatalog.Proofs.Query.Derivation

/-!
The state of the reader says which tokens may have been read to reach it. Main statement: every
list of tokens that the reader accepts has a derivation.
-/

set_option autoImplicit false

namespace CardCatalog.Query

theorem negate_not (n : Nat) (q : Query .single) : negate n (.not q) = .not (negate n q) := by
  induction n with
  | zero => rfl
  | succ n ih => simp [negate, ih]

theorem Before.add_not (alternatives : Option (Query .any)) (conditions : Option (Query .all))
    (n : Nat) (q : Query .single) :
    add ⟨alternatives, conditions, n + 1⟩ q = add ⟨alternatives, conditions, n⟩ (.not q) := by
  simp [add, negate, negate_not]

theorem Before.add_unnegated (alternatives : Option (Query .any))
    (conditions : Option (Query .all)) (q : Query .single) :
    add ⟨alternatives, conditions, 0⟩ q = ⟨alternatives, andAfter conditions q⟩ := by
  cases conditions <;> rfl

/-- The tokens that may have been read within the innermost parentheses before a term. -/
inductive Before.Spells : Before → List Token → Prop where
  | start : Spells ⟨none, none, 0⟩ []
  | alternatives (p : Query .any) (d : Derivation .any) (sign : Sign .or) :
      Spells ⟨some p, none, 0⟩ (d.tokens ++ [sign.val])
  | conditions {alternatives : Option (Query .any)} {ts : List Token} (p : Query .all)
      (d : Derivation .all) : Spells ⟨alternatives, none, 0⟩ ts →
      Spells ⟨alternatives, some p, 0⟩ (ts ++ d.tokens)
  | negation {alternatives : Option (Query .any)} {conditions : Option (Query .all)} {n : Nat}
      {ts : List Token} (sign : Sign .not) : Spells ⟨alternatives, conditions, n⟩ ts →
      Spells ⟨alternatives, conditions, n + 1⟩ (ts ++ [sign.val])

inductive After.Spells : After → List Token → Prop where
  | conditions {alternatives : Option (Query .any)} {ts : List Token} (p : Query .all)
      (d : Derivation .all) : Before.Spells ⟨alternatives, none, 0⟩ ts →
      Spells ⟨alternatives, p⟩ (ts ++ d.tokens)

theorem Before.Spells.add {b : Before} {ts : List Token} (spells : b.Spells ts)
    (q : Query .single) (d : Derivation .single) : (b.add q).Spells (ts ++ d.tokens) := by
  induction spells generalizing q d with
  | start => exact .conditions (.one q) (.last d) .start
  | alternatives p d' sign => exact .conditions (.one q) (.last d) (.alternatives p d' sign)
  | conditions p d' before =>
    have joined := After.Spells.conditions (.and p q) (d'.snoc d) before
    simpa [Before.add_unnegated, andAfter] using joined
  | negation sign before ih =>
    have inner := ih (.not q) (.not sign d)
    simpa [Before.add_not, Derivation.tokens] using inner

theorem After.Spells.exists_derivation {a : After} {ts : List Token} (spells : a.Spells ts) :
    ∃ d : Derivation .any, d.tokens = ts := by
  obtain ⟨p, d, before⟩ := spells
  cases before with
  | start => exact ⟨.only d, rfl⟩
  | alternatives p d' sign => exact ⟨d'.snocOr sign d, by simp⟩

inductive Encloses : List Before → List Token → Prop where
  | nil : Encloses [] []
  | cons {enclosing : List Before} {b : Before} {outer ts : List Token}
      (opening : Sign .openParen) : Encloses enclosing outer → b.Spells ts →
      Encloses (b :: enclosing) (outer ++ ts ++ [opening.val])

inductive Position.Spells : Position → List Token → Prop where
  | term {b : Before} {ts : List Token} : b.Spells ts → Spells (.term b) ts
  | word {b : Before} {ts : List Token} (word : Sign .word) : b.Spells ts →
      Spells (.word b word.val) (ts ++ [word.val])
  | exactName {b : Before} {ts : List Token} (mark : Sign .bang) : b.Spells ts →
      Spells (.exactName b) (ts ++ [mark.val])
  | value {b : Before} {ts : List Token} (word : Sign .word) (sign : OperatorSign)
      (equal : sign.operator.isEquality = true) : b.Spells ts →
      Spells (.value b word.val sign.operator false) (ts ++ [word.val, sign.token])
  | exactValue {b : Before} {ts : List Token} (word : Sign .word) (sign : OperatorSign)
      (equal : sign.operator.isEquality = true) (mark : Sign .bang) : b.Spells ts →
      Spells (.value b word.val sign.operator true) (ts ++ [word.val, sign.token, mark.val])
  | operand {b : Before} {ts : List Token} (word : Sign .word) (sign : OperatorSign)
      (unequal : sign.operator.isEquality = false) : b.Spells ts →
      Spells (.operand b word.val sign.operator) (ts ++ [word.val, sign.token])
  | after {a : After} {ts : List Token} : a.Spells ts → Spells (.after a) ts

/-- The tokens that a reader may have read: what its state says of them is what they spell. -/
inductive Parser.Spells : Parser → List Token → Prop where
  | mk {enclosing : List Before} {position : Position} {outer inner : List Token} :
      Encloses enclosing outer → position.Spells inner →
      Spells ⟨enclosing, position⟩ (outer ++ inner)

namespace Parser

theorem Spells.startTerm {enclosing : List Before} {b : Before} {outer inner : List Token}
    {t : Token} {next : Parser} (encloses : Encloses enclosing outer) (spells : b.Spells inner)
    (steps : Parser.startTerm enclosing b t = .ok next) :
    next.Spells (outer ++ (inner ++ [t])) := by
  cases kind : t.kind with
  | not =>
    have same : ⟨enclosing, .term { b with negations := b.negations + 1 }⟩ = next := by
      simp only [Parser.startTerm, kind] at steps
      split at steps <;> simp_all
    subst same
    exact .mk encloses (.term (.negation ⟨t, kind⟩ spells))
  | openParen =>
    have same : ⟨b :: enclosing, .term .start⟩ = next := by
      simp only [Parser.startTerm, kind] at steps
      split at steps <;> simp_all
    subst same
    simpa [Before.start] using Spells.mk (.cons ⟨t, kind⟩ encloses spells) (.term .start)
  | quoted =>
    simp only [Parser.startTerm, kind, Except.ok.injEq] at steps
    subst steps
    have name := spells.add (.term (.name t.text false))
      (.leaf (.name ⟨t, by simp [kind, isValue]⟩))
    exact .mk encloses (.after name)
  | bang =>
    simp only [Parser.startTerm, kind, Except.ok.injEq] at steps
    subst steps
    exact .mk encloses (.exactName ⟨t, kind⟩ spells)
  | word =>
    simp only [Parser.startTerm, kind, Except.ok.injEq] at steps
    subst steps
    exact .mk encloses (.word ⟨t, kind⟩ spells)
  | _ => simp [Parser.startTerm, kind, unexpected] at steps

theorem Spells.continueAfter {enclosing : List Before} {a : After} {outer inner : List Token}
    {t : Token} {next : Parser} (encloses : Encloses enclosing outer) (spells : a.Spells inner)
    (steps : Parser.continueAfter enclosing a t = .ok next) :
    next.Spells (outer ++ (inner ++ [t])) := by
  by_cases or : t.kind = .or
  · simp only [Parser.continueAfter, or, Except.ok.injEq] at steps
    subst steps
    obtain ⟨d, rfl⟩ := spells.exists_derivation
    exact .mk encloses (.term (.alternatives a.query d ⟨t, or⟩))
  by_cases close : t.kind = .closeParen
  · cases encloses with
    | nil => simp [Parser.continueAfter, close, unexpected] at steps
    | @cons enclosing b before ts opening outside here =>
      simp only [Parser.continueAfter, close, Except.ok.injEq] at steps
      subst steps
      obtain ⟨d, rfl⟩ := spells.exists_derivation
      have group := here.add (.group a.query) (.group opening d ⟨t, close⟩)
      simpa [Derivation.tokens] using Spells.mk outside (.after group)
  · obtain ⟨p, d, before⟩ := spells
    refine Spells.startTerm encloses (.conditions p d before) ?_
    unfold Parser.continueAfter at steps
    split at steps <;> simp_all

theorem Spells.finishKeyword {rate : Float} {enclosing : List Before} {b : Before}
    {word value : Token} {operator : Operator} {exact : Bool} {next : Parser}
    {outer inner : List Token} (l : Leaf) (encloses : Encloses enclosing outer)
    (spells : b.Spells inner)
    (steps : Parser.finishKeyword rate enclosing b word operator exact value = .ok next) :
    next.Spells (outer ++ (inner ++ l.tokens)) := by
  unfold Parser.finishKeyword at steps
  split at steps
  next found _ =>
    cases steps
    exact .mk encloses (.after (spells.add (.term found) (.leaf l)))
  next => cases steps

theorem Spells.step {rate : Float} {p next : Parser} {ts : List Token} {t : Token}
    (spells : p.Spells ts) (steps : p.step rate t = .ok next) : next.Spells (ts ++ [t]) := by
  obtain @⟨enclosing, position, outer, inner, encloses, here⟩ := spells
  rw [List.append_assoc]
  cases here with
  | term before => exact .startTerm encloses before steps
  | @word b inner word before =>
    simp only [Parser.step] at steps
    split at steps
    next operator reads =>
      let sign : OperatorSign := ⟨t, operator, reads⟩
      split at steps
      next equal =>
        cases steps
        simpa using Spells.mk encloses (.value word sign equal before)
      next unequal =>
        cases steps
        simpa using Spells.mk encloses (.operand word sign (by simpa using unequal) before)
    next =>
      have name : word.val.kind = .word := word.property
      exact .continueAfter encloses
        (before.add _ (.leaf (.name ⟨word.val, by simp [name, isValue]⟩))) steps
  | @exactName b inner mark before =>
    simp only [Parser.step] at steps
    split at steps
    next value =>
      cases steps
      have name := before.add (.term (.name t.text true)) (.leaf (.exactName mark ⟨t, value⟩))
      simpa [Derivation.tokens, Leaf.tokens] using Spells.mk encloses (.after name)
    next => cases steps
  | value word sign equal before =>
    simp only [Parser.step] at steps
    split at steps
    next bang =>
      cases steps
      have mark : t.kind = .bang := by simpa using bang
      simpa using Spells.mk encloses (.exactValue word sign equal ⟨t, mark⟩ before)
    next =>
      split at steps
      next value =>
        have keyword := Spells.finishKeyword (.equality word sign equal none ⟨t, value⟩) encloses
          before steps
        simpa [Leaf.tokens] using keyword
      next => cases steps
  | exactValue word sign equal mark before =>
    simp only [Parser.step] at steps
    split at steps
    next bang => simp at bang
    next =>
      split at steps
      next value =>
        have keyword := Spells.finishKeyword (.equality word sign equal (some mark) ⟨t, value⟩)
          encloses before steps
        simpa [Leaf.tokens] using keyword
      next => cases steps
  | operand word sign unequal before =>
    simp only [Parser.step] at steps
    split at steps
    next value =>
      have keyword := Spells.finishKeyword (.comparison word sign unequal ⟨t, value⟩) encloses
        before steps
      simpa [Leaf.tokens] using keyword
    next => cases steps
  | after spelled => exact .continueAfter encloses spelled steps

theorem Spells.run {rate : Float} {p last : Parser} {ts us : List Token} (spells : p.Spells ts)
    (runs : p.run rate us = .ok last) : last.Spells (ts ++ us) := by
  induction us generalizing p ts with
  | nil =>
    cases runs
    simpa using spells
  | cons t us ih =>
    simp only [Parser.run] at runs
    split at runs
    next next steps => simpa using ih (spells.step steps) runs
    next => cases runs

theorem Spells.exists_derivation {p : Parser} {ts : List Token} {q : Query .any}
    (spells : p.Spells ts) (finishes : p.finish = .ok q) :
    ∃ d : Derivation .any, d.tokens = ts := by
  obtain ⟨encloses, here⟩ := spells
  cases encloses with
  | cons opening outside before => simp [finish] at finishes
  | nil =>
    cases here with
    | after spelled => exact spelled.exists_derivation
    | @word b ts word before =>
      have isName : isValue word.val.kind = true := by simp [word.property, isValue]
      have name := before.add (.term (.name word.val.text false)) (.leaf (.name ⟨_, isName⟩))
      exact name.exists_derivation
    | _ => simp [finish] at finishes

end Parser

end CardCatalog.Query
