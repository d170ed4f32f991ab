import CardCatalog.Proofs.Query.Parsing
import CardCatalog.Proofs.Sql.Text

/-!
What the text of a condition depends on. Main statement: search texts that differ only in their
names and values have conditions with the same text.
-/

set_option autoImplicit false

namespace CardCatalog.Query

/-- Tokens of the same kinds, with the same keywords: a word that an operator follows is the same
word in both, up to case. -/
inductive Alike : List Token → List Token → Prop where
  | nil : Alike [] []
  | cons {t u : Token} {ts us : List Token} (kind : t.kind = u.kind)
      (keyword : t.kind = .word → (∃ o ∈ ts.head?, (Operator.ofKind? o.kind).isSome) →
        Text.fold t.text = Text.fold u.text) :
      Alike ts us → Alike (t :: ts) (u :: us)

theorem Alike.exists_cons {t : Token} {ts vs : List Token} (alike : Alike (t :: ts) vs) :
    ∃ u us, vs = u :: us ∧ u.kind = t.kind ∧ Alike ts us := by
  cases alike with
  | cons kind _ alike => exact ⟨_, _, rfl, kind.symm, alike⟩

theorem Alike.exists_keyword {word : Sign .word} {sign : OperatorSign} {ts vs : List Token}
    (alike : Alike (word.val :: sign.token :: ts) vs) :
    ∃ (word' : Sign .word) (sign' : OperatorSign) (us : List Token),
      vs = word'.val :: sign'.token :: us ∧ sign'.operator = sign.operator ∧
      Text.fold word.val.text = Text.fold word'.val.text ∧ Alike ts us := by
  cases alike with
  | cons kind keyword alike =>
    obtain ⟨u, us, rfl, same, alike⟩ := alike.exists_cons
    have folded := keyword word.property ⟨sign.token, rfl, by simp [sign.reads]⟩
    have reads : Operator.ofKind? u.kind = some sign.operator := by rw [same, sign.reads]
    exact ⟨⟨_, kind.symm.trans word.property⟩, ⟨u, _, reads⟩, us, rfl, rfl, folded, alike⟩

theorem Alike.exists_value {value : Value} {ts vs : List Token}
    (alike : Alike (value.val :: ts) vs) :
    ∃ (value' : Value) (us : List Token), vs = value'.val :: us ∧ Alike ts us := by
  obtain ⟨u, us, rfl, same, alike⟩ := alike.exists_cons
  exact ⟨⟨u, same ▸ value.property⟩, us, rfl, alike⟩

theorem Alike.exists_sign {kind : TokenKind} {sign : Sign kind} {ts vs : List Token}
    (alike : Alike (sign.val :: ts) vs) :
    ∃ (sign' : Sign kind) (us : List Token), vs = sign'.val :: us ∧ Alike ts us := by
  obtain ⟨u, us, rfl, same, alike⟩ := alike.exists_cons
  exact ⟨⟨u, same.trans sign.property⟩, us, rfl, alike⟩

/-! ## Alike derivations -/

inductive Leaf.Alike : Leaf → Leaf → Prop where
  | name (text text' : Value) : Alike (.name text) (.name text')
  | exactName (mark mark' : Sign .bang) (text text' : Value) :
      Alike (.exactName mark text) (.exactName mark' text')
  | equality {word word' : Sign .word} {sign sign' : OperatorSign}
      {equal : sign.operator.isEquality = true} {equal' : sign'.operator.isEquality = true}
      {mark mark' : Option (Sign .bang)} (value value' : Value)
      (keyword : Text.fold word.val.text = Text.fold word'.val.text)
      (operator : sign'.operator = sign.operator) (marked : mark'.isSome = mark.isSome) :
      Alike (.equality word sign equal mark value) (.equality word' sign' equal' mark' value')
  | comparison {word word' : Sign .word} {sign sign' : OperatorSign}
      {unequal : sign.operator.isEquality = false} {unequal' : sign'.operator.isEquality = false}
      (value value' : Sign .word) (keyword : Text.fold word.val.text = Text.fold word'.val.text)
      (operator : sign'.operator = sign.operator) :
      Alike (.comparison word sign unequal value) (.comparison word' sign' unequal' value')

/-- Derivations of the same shape with alike terms. -/
inductive Derivation.Alike : {r : Rank} → Derivation r → Derivation r → Prop where
  | leaf {l l' : Leaf} : l.Alike l' → Alike (.leaf l) (.leaf l')
  | not (sign sign' : Sign .not) {d d' : Derivation .single} : Alike d d' →
      Alike (.not sign d) (.not sign' d')
  | group (opening opening' : Sign .openParen) (closing closing' : Sign .closeParen)
      {d d' : Derivation .any} : Alike d d' →
      Alike (.group opening d closing) (.group opening' d' closing')
  | last {d d' : Derivation .single} : Alike d d' → Alike (.last d) (.last d')
  | and {d d' : Derivation .single} {rest rest' : Derivation .all} : Alike d d' →
      Alike rest rest' → Alike (.and d rest) (.and d' rest')
  | only {d d' : Derivation .all} : Alike d d' → Alike (.only d) (.only d')
  | or (sign sign' : Sign .or) {d d' : Derivation .all} {rest rest' : Derivation .any} :
      Alike d d' → Alike rest rest' → Alike (.or d sign rest) (.or d' sign' rest')

theorem Leaf.exists_alike (l : Leaf) {rest vs : List Token}
    (alike : Query.Alike (l.tokens ++ rest) vs) :
    ∃ (l' : Leaf) (us : List Token), vs = l'.tokens ++ us ∧ l.Alike l' ∧ Query.Alike rest us := by
  cases l with
  | name text =>
    obtain ⟨text', us, rfl, others⟩ := alike.exists_value
    exact ⟨.name text', us, rfl, .name text text', others⟩
  | exactName mark text =>
    obtain ⟨mark', _, rfl, marked⟩ := alike.exists_sign
    obtain ⟨text', us, rfl, others⟩ := marked.exists_value
    exact ⟨.exactName mark' text', us, rfl, .exactName mark mark' text text', others⟩
  | equality word sign equal mark value =>
    cases mark with
    | none =>
      obtain ⟨word', sign', _, rfl, same, keyword, signed⟩ := alike.exists_keyword
      obtain ⟨value', us, rfl, others⟩ := signed.exists_value
      exact ⟨.equality word' sign' (same ▸ equal) none value', us, rfl,
        .equality value value' keyword same rfl, others⟩
    | some mark =>
      obtain ⟨word', sign', _, rfl, same, keyword, signed⟩ := alike.exists_keyword
      obtain ⟨mark', _, rfl, marked⟩ := signed.exists_sign
      obtain ⟨value', us, rfl, others⟩ := marked.exists_value
      exact ⟨.equality word' sign' (same ▸ equal) (some mark') value', us, rfl,
        .equality value value' keyword same rfl, others⟩
  | comparison word sign unequal value =>
    obtain ⟨word', sign', _, rfl, same, keyword, signed⟩ := alike.exists_keyword
    obtain ⟨value', us, rfl, others⟩ := signed.exists_sign
    exact ⟨.comparison word' sign' (same ▸ unequal) value', us, rfl,
      .comparison value value' keyword same, others⟩

theorem Derivation.exists_alike {r : Rank} (d : Derivation r) {rest vs : List Token}
    (alike : Query.Alike (d.tokens ++ rest) vs) :
    ∃ (d' : Derivation r) (us : List Token),
      vs = d'.tokens ++ us ∧ d.Alike d' ∧ Query.Alike rest us := by
  induction d generalizing rest vs with
  | leaf l =>
    obtain ⟨l', us, rfl, same, others⟩ := l.exists_alike alike
    exact ⟨.leaf l', us, rfl, .leaf same, others⟩
  | not sign d ih =>
    obtain ⟨sign', _, rfl, negated⟩ := alike.exists_sign
    obtain ⟨d', us, rfl, same, others⟩ := ih negated
    exact ⟨.not sign' d', us, rfl, .not sign sign' same, others⟩
  | group opening d closing ih =>
    simp only [tokens, List.cons_append, List.append_assoc, List.nil_append] at alike
    obtain ⟨opening', _, rfl, opened⟩ := alike.exists_sign
    obtain ⟨d', _, rfl, same, closes⟩ := ih opened
    obtain ⟨closing', us, rfl, others⟩ := closes.exists_sign
    exact ⟨.group opening' d' closing', us, by simp [tokens],
      .group opening opening' closing closing' same, others⟩
  | last d ih =>
    obtain ⟨d', us, rfl, same, others⟩ := ih alike
    exact ⟨.last d', us, rfl, .last same, others⟩
  | and d more ih moreIh =>
    rw [tokens, List.append_assoc] at alike
    obtain ⟨d', _, rfl, same, next⟩ := ih alike
    obtain ⟨more', us, rfl, sameMore, others⟩ := moreIh next
    exact ⟨.and d' more', us, by simp [tokens], .and same sameMore, others⟩
  | only d ih =>
    obtain ⟨d', us, rfl, same, others⟩ := ih alike
    exact ⟨.only d', us, rfl, .only same, others⟩
  | or d sign more ih moreIh =>
    rw [tokens, List.append_assoc] at alike
    obtain ⟨d', _, rfl, same, next⟩ := ih alike
    obtain ⟨sign', _, rfl, joined⟩ := next.exists_sign
    obtain ⟨more', us, rfl, sameMore, others⟩ := moreIh joined
    exact ⟨.or d' sign' more', us, by simp [tokens], .or sign sign' same sameMore, others⟩

theorem Derivation.alike_of_tokens {d d' : Derivation .any}
    (alike : Query.Alike d.tokens d'.tokens) : d.Alike d' := by
  rw [← List.append_nil d.tokens] at alike
  obtain ⟨e, us, tokens, same, others⟩ := d.exists_alike alike
  cases others
  rw [List.append_nil] at tokens
  have unique : d' = e := Derivation.eq_of_tokens_eq tokens
  rwa [unique]

/-! ## The texts of alike derivations -/

theorem Fragment.onFaces_sql_eq {f f' g g' : Fragment} (layouts : List Layout)
    (first : f.sql = f'.sql) (second : g.sql = g'.sql) :
    (onFaces f g layouts).sql = (onFaces f' g' layouts).sql := by
  obtain ⟨sql, params⟩ := f
  obtain ⟨sql', params'⟩ := g
  subst first second
  rfl

theorem Fragment.onCard_sql_eq (sql : String) (value value' : Param) :
    (onCard (.ofValue sql value)).sql = (onCard (.ofValue sql value')).sql :=
  rfl

theorem Term.name_sql_eq (value value' : String) (exact : Bool) :
    (Term.name value exact).fragment.sql = (Term.name value' exact).fragment.sql := by
  cases exact <;> exact Fragment.onFaces_sql_eq _ rfl rfl

/-- The text of a keyword term depends on its keyword, its operator and the mark alone. -/
theorem Keyword.sql_eq {rate rate' : Float} {keyword : Keyword} {c : Comparison} {exact : Bool}
    {value value' : String} {t t' : Term} (accepted : keyword.term? rate c exact value = some t)
    (accepted' : keyword.term? rate' c exact value' = some t') :
    t.fragment.sql = t'.fragment.sql := by
  cases keyword with
  | name =>
    cases accepted
    cases accepted'
    exact Term.name_sql_eq value value' exact
  | text | type =>
    cases accepted
    cases accepted'
    exact Fragment.onFaces_sql_eq _ rfl rfl
  | set | legal | rarity | layout =>
    cases accepted
    cases accepted'
    exact Fragment.onCard_sql_eq _ _ _
  | power | toughness | colors | mana =>
    obtain ⟨n, -, rfl⟩ := Option.map_eq_some_iff.1 accepted
    obtain ⟨n', -, rfl⟩ := Option.map_eq_some_iff.1 accepted'
    exact Fragment.onFaces_sql_eq _ rfl rfl
  | cmc | loyalty | year | price =>
    obtain ⟨n, -, rfl⟩ := Option.map_eq_some_iff.1 accepted
    obtain ⟨n', -, rfl⟩ := Option.map_eq_some_iff.1 accepted'
    exact Fragment.onCard_sql_eq _ _ _

theorem Term.ofKeyword_eq_ok {rate : Float} {word : String} {operator : Operator} {exact : Bool}
    {value : String} {t : Term} (accepted : Term.ofKeyword rate word operator exact value = .ok t) :
    ∃ keyword, Keyword.ofWord? word = some keyword ∧
      keyword.term? rate (operator.comparison keyword) exact value = some t := by
  unfold Term.ofKeyword at accepted
  split at accepted
  next => cases accepted
  next keyword found =>
    refine ⟨keyword, found, ?_⟩
    grind

theorem Term.ofKeyword_sql_eq {rate rate' : Float} {word word' : String} {operator : Operator}
    {exact : Bool} {value value' : String} {t t' : Term}
    (same : Text.fold word = Text.fold word')
    (accepted : Term.ofKeyword rate word operator exact value = .ok t)
    (accepted' : Term.ofKeyword rate' word' operator exact value' = .ok t') :
    t.fragment.sql = t'.fragment.sql := by
  obtain ⟨keyword, found, term⟩ := Term.ofKeyword_eq_ok accepted
  obtain ⟨keyword', found', term'⟩ := Term.ofKeyword_eq_ok accepted'
  have keywords : keyword = keyword' := by
    unfold Keyword.ofWord? at found found'
    rw [same, found'] at found
    exact (Option.some.inj found).symm
  subst keywords
  exact Keyword.sql_eq term term'

theorem Leaf.Alike.sql_eq {l l' : Leaf} (alike : l.Alike l') {rate rate' : Float} {t t' : Term}
    (accepted : l.term rate = .ok t) (accepted' : l'.term rate' = .ok t') :
    t.fragment.sql = t'.fragment.sql := by
  cases alike with
  | name | exactName =>
    cases accepted
    cases accepted'
    exact Term.name_sql_eq _ _ _
  | equality value value' keyword operator marked =>
    simp only [Leaf.term, operator, marked] at accepted accepted'
    exact Term.ofKeyword_sql_eq keyword accepted accepted'
  | comparison value value' keyword operator =>
    simp only [Leaf.term, operator] at accepted accepted'
    exact Term.ofKeyword_sql_eq keyword accepted accepted'

theorem sql_andAfter {left left' : Option (Query .all)} {q q' : Query .single}
    (joined : left.map (·.fragment.sql) = left'.map (·.fragment.sql))
    (same : q.fragment.sql = q'.fragment.sql) :
    (andAfter left q).fragment.sql = (andAfter left' q').fragment.sql := by
  cases left <;> cases left' <;> simp_all [andAfter, fragment, Fragment.and, Fragment.join]

theorem sql_orAfter {left left' : Option (Query .any)} {q q' : Query .all}
    (joined : left.map (·.fragment.sql) = left'.map (·.fragment.sql))
    (same : q.fragment.sql = q'.fragment.sql) :
    (orAfter left q).fragment.sql = (orAfter left' q').fragment.sql := by
  cases left <;> cases left' <;> simp_all [orAfter, fragment, Fragment.or, Fragment.join]

theorem Derivation.Alike.sql_eq {r : Rank} {d d' : Derivation r} (alike : d.Alike d')
    {rate rate' : Float} {left left' : Option (Query r)} {q q' : Query r}
    (joined : left.map (·.fragment.sql) = left'.map (·.fragment.sql))
    (stands : d.query rate left = .ok q) (stands' : d'.query rate' left' = .ok q') :
    q.fragment.sql = q'.fragment.sql := by
  -- What was joined before differs in its values too; the induction carries its texts along.
  induction alike with
  | leaf alike =>
    obtain ⟨t, accepted, rfl⟩ := map_eq_ok_iff.1 stands
    obtain ⟨t', accepted', rfl⟩ := map_eq_ok_iff.1 stands'
    exact alike.sql_eq accepted accepted'
  | not sign sign' alike ih =>
    obtain ⟨p, inner, rfl⟩ := map_eq_ok_iff.1 stands
    obtain ⟨p', inner', rfl⟩ := map_eq_ok_iff.1 stands'
    have negated := ih rfl inner inner'
    exact congrArg ("NOT " ++ ·) negated
  | group opening opening' closing closing' alike ih =>
    obtain ⟨p, inner, rfl⟩ := map_eq_ok_iff.1 stands
    obtain ⟨p', inner', rfl⟩ := map_eq_ok_iff.1 stands'
    have grouped := ih rfl inner inner'
    exact congrArg ("( " ++ · ++ " )") grouped
  | last alike ih =>
    obtain ⟨p, inner, rfl⟩ := map_eq_ok_iff.1 stands
    obtain ⟨p', inner', rfl⟩ := map_eq_ok_iff.1 stands'
    exact sql_andAfter joined (ih rfl inner inner')
  | and alike more ih moreIh =>
    obtain ⟨p, inner, others⟩ := bind_eq_ok_iff.1 stands
    obtain ⟨p', inner', others'⟩ := bind_eq_ok_iff.1 stands'
    have first := sql_andAfter joined (ih rfl inner inner')
    exact moreIh (by simp only [Option.map_some, first]) others others'
  | only alike ih =>
    obtain ⟨p, inner, rfl⟩ := map_eq_ok_iff.1 stands
    obtain ⟨p', inner', rfl⟩ := map_eq_ok_iff.1 stands'
    exact sql_orAfter joined (ih rfl inner inner')
  | or sign sign' alike more ih moreIh =>
    obtain ⟨p, inner, others⟩ := bind_eq_ok_iff.1 stands
    obtain ⟨p', inner', others'⟩ := bind_eq_ok_iff.1 stands'
    have first := sql_orAfter joined (ih rfl inner inner')
    exact moreIh (by simp only [Option.map_some, first]) others others'

/-- Alike lists of tokens that are both accepted have conditions with the same text, whatever the
rates are; they differ in the values of the parameters at most. -/
theorem sql_eq_of_alike {rate rate' : Float} {ts us : List Token} {f g : Fragment}
    (alike : Alike ts us) (parses : (parse rate ts).map conditionOf = .ok f)
    (parses' : (parse rate' us).map conditionOf = .ok g) :
    f.sql = g.sql ∧ f.params.length = g.params.length := by
  obtain ⟨p, read, rfl⟩ := map_eq_ok_iff.1 parses
  obtain ⟨q, read', rfl⟩ := map_eq_ok_iff.1 parses'
  cases p with
  | none =>
    obtain rfl := parse_eq_none_iff.1 read
    cases alike
    cases read'
    exact ⟨rfl, rfl⟩
  | some p =>
    obtain ⟨d, rfl, -, stands⟩ := parse_eq_some_iff.1 read
    cases q with
    | none =>
      obtain rfl := parse_eq_none_iff.1 read'
      obtain ⟨t, rest, tokens, -⟩ := d.exists_head
      rw [tokens] at alike
      cases alike
    | some q =>
      obtain ⟨d', rfl, -, stands'⟩ := parse_eq_some_iff.1 read'
      have same : p.fragment.sql = q.fragment.sql :=
        (Derivation.alike_of_tokens alike).sql_eq rfl stands stands'
      refine ⟨same, ?_⟩
      calc p.fragment.params.length
        _ = p.fragment.placeholders := (fragment_closed p).placeholders.symm
        _ = q.fragment.placeholders := congrArg countPlaceholders same
        _ = q.fragment.params.length := (fragment_closed q).placeholders

theorem sql_eq_of_alike_quoted :
    ∃ f g : Fragment, Alike (tokens "t:\"elf\" x") (tokens "T:\"') OR (1=1\" y") ∧
      (compile 1 "t:\"elf\" x").map conditionOf = .ok f ∧
      (compile 2 "T:\"') OR (1=1\" y").map conditionOf = .ok g ∧
      f.sql = g.sql ∧ f.params.length = g.params.length := by
  have plain : tokens "t:\"elf\" x" =
      [⟨.word, "t", 0⟩, ⟨.colon, ":", 1⟩, ⟨.quoted, "elf", 2⟩, ⟨.word, "x", 8⟩] := by
    cbv
  have hostile : tokens "T:\"') OR (1=1\" y" =
      [⟨.word, "T", 0⟩, ⟨.colon, ":", 1⟩, ⟨.quoted, "') OR (1=1", 2⟩, ⟨.word, "y", 15⟩] := by
    cbv
  have alike : Alike (tokens "t:\"elf\" x") (tokens "T:\"') OR (1=1\" y") := by
    rw [plain, hostile]
    have folded : Text.fold "t" = Text.fold "T" := by cbv
    have last : Alike [⟨.word, "x", 8⟩] [⟨.word, "y", 15⟩] := .cons rfl (by simp) .nil
    have phrase : Alike [⟨.quoted, "elf", 2⟩, ⟨.word, "x", 8⟩]
        [⟨.quoted, "') OR (1=1", 2⟩, ⟨.word, "y", 15⟩] :=
      .cons rfl (by simp) last
    exact .cons rfl (fun _ _ => folded) (.cons rfl (by simp) phrase)
  have parses : compile 1 "t:\"elf\" x" =
      .ok (some (.only (.and (.one (.term (.type "elf"))) (.term (.name "x" false))))) := by
    cbv
  have parses' : compile 2 "T:\"') OR (1=1\" y" = .ok (some (.only
      (.and (.one (.term (.type "') OR (1=1"))) (.term (.name "y" false))))) := by
    cbv
  have compiles := congrArg (Except.map conditionOf) parses
  have compiles' := congrArg (Except.map conditionOf) parses'
  exact ⟨_, _, alike, compiles, compiles', sql_eq_of_alike alike compiles compiles'⟩

end CardCatalog.Query
