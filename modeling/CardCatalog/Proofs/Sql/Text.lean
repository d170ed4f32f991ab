import CardCatalog.Query.Basic

/-!
The texts of conditions as walks over their characters, which keep count of open parentheses and
of placeholders and know whether they are within a literal. Main statement: the text of every
query ends outside of all parentheses and literals and has one placeholder for each parameter.
-/

set_option autoImplicit false

namespace CardCatalog.Sql

open Query

/-- Where a walk stands: how many parentheses are open, whether a literal is, and how many
placeholders came before. -/
structure Place where
  depth : Nat
  inLiteral : Bool
  placeholders : Nat
  deriving DecidableEq, Repr

namespace Place

def start : Place := ⟨0, false, 0⟩

def step (p : Place) (c : Char) : Option Place :=
  if c = '\'' then some { p with inLiteral := !p.inLiteral }
  else if p.inLiteral then some p
  else if c = '(' then some { p with depth := p.depth + 1 }
  else if c = ')' then
    match p.depth with
    | 0 => none
    | n + 1 => some { p with depth := n }
  else if c = '?' then some { p with placeholders := p.placeholders + 1 }
  else some p

/-- The same place after a text that opens `n` parentheses more and has `k` placeholders. -/
def after (n k : Nat) (p : Place) : Place :=
  ⟨n + p.depth, p.inLiteral, k + p.placeholders⟩

theorem step_after {p q : Place} {c : Char} (n k : Nat) (steps : p.step c = some q) :
    (p.after n k).step c = some (q.after n k) := by
  obtain ⟨depth, inLiteral, placeholders⟩ := p
  unfold step at *
  cases depth <;> grind [after]

end Place

def Walks (cs : List Char) (p q : Place) : Prop :=
  cs.foldlM Place.step p = some q

instance (cs : List Char) (p q : Place) : Decidable (Walks cs p q) :=
  inferInstanceAs (Decidable (cs.foldlM Place.step p = some q))

theorem walks_cons {c : Char} {cs : List Char} {p q : Place} :
    Walks (c :: cs) p q ↔ ∃ next, p.step c = some next ∧ Walks cs next q :=
  Option.bind_eq_some_iff

theorem Walks.append {cs ds : List Char} {p q r : Place} (first : Walks cs p q)
    (second : Walks ds q r) : Walks (cs ++ ds) p r := by
  unfold Walks at *
  simp [List.foldlM_append, first, second]

theorem Walks.after {cs : List Char} {p q : Place} (walks : Walks cs p q) (n k : Nat) :
    Walks cs (p.after n k) (q.after n k) := by
  induction cs generalizing p with
  | nil => simp_all [Walks]
  | cons c cs ih =>
    obtain ⟨next, steps, walks⟩ := walks_cons.1 walks
    exact walks_cons.2 ⟨_, Place.step_after n k steps, ih walks⟩

theorem Walks.count {cs : List Char} {p q : Place} (walks : Walks cs p q) :
    q.placeholders = p.placeholders + countPlaceholdersFrom p.inLiteral cs := by
  induction cs generalizing p with
  | nil =>
    cases walks
    rfl
  | cons c cs ih =>
    obtain ⟨next, steps, walks⟩ := walks_cons.1 walks
    rw [ih walks]
    unfold Place.step at steps
    grind [countPlaceholdersFrom]

theorem Walks.count_append {cs : List Char} {p q : Place} (walks : Walks cs p q)
    (ds : List Char) : countPlaceholdersFrom p.inLiteral (cs ++ ds) =
      countPlaceholdersFrom p.inLiteral cs + countPlaceholdersFrom q.inLiteral ds := by
  induction cs generalizing p with
  | nil =>
    cases walks
    simp [countPlaceholdersFrom]
  | cons c cs ih =>
    obtain ⟨next, steps, walks⟩ := walks_cons.1 walks
    have counted := ih walks
    unfold Place.step at steps
    grind [countPlaceholdersFrom]

/-- A text leads from one place to another. -/
def Leads (s : String) (p q : Place) : Prop :=
  Walks s.toList p q

-- The characters of a literal are found by unification; evaluating `toList` on it is slow.
theorem Leads.ofList {cs : List Char} {p q : Place} (walks : Walks cs p q) :
    Leads (String.ofList cs) p q := by
  unfold Leads
  rw [String.toList_ofList]
  exact walks

theorem Leads.append {s t : String} {p q r : Place} (first : Leads s p q) (second : Leads t q r) :
    Leads (s ++ t) p r := by
  unfold Leads
  rw [String.toList_append]
  exact Walks.append first second

theorem Leads.after {s : String} {p q : Place} (leads : Leads s p q) (n k : Nat) :
    Leads s (p.after n k) (q.after n k) :=
  Walks.after leads n k

theorem Leads.later {s : String} {n m : Nat} {b c : Bool} (leads : Leads s ⟨n, b, 0⟩ ⟨m, c, 0⟩)
    (k : Nat) : Leads s ⟨n, b, k⟩ ⟨m, c, k⟩ := by
  simpa [Place.after] using leads.after 0 k

theorem Leads.count {s : String} {q : Place} (leads : Leads s .start q) :
    countPlaceholders s = q.placeholders := by
  rw [Walks.count leads]
  simp [Place.start, countPlaceholders]

theorem Leads.count_append {s t : String} {n k : Nat} (leads : Leads s .start ⟨n, false, k⟩) :
    countPlaceholders (s ++ t) = countPlaceholders s + countPlaceholders t := by
  unfold countPlaceholders
  rw [String.toList_append]
  exact Walks.count_append leads t.toList

/-- A text without placeholders that ends where it starts, wherever that is outside of literals. -/
def Plain (s : String) : Prop :=
  Leads s .start .start

theorem Plain.leads {s : String} (plain : Plain s) (n k : Nat) :
    Leads s ⟨n, false, k⟩ ⟨n, false, k⟩ :=
  Leads.after plain n k

theorem Plain.intercalate {glue : String} {pieces : List String} (glued : Plain glue)
    (plain : ∀ s ∈ pieces, Plain s) : Plain (glue.intercalate pieces) := by
  induction pieces with
  | nil =>
    rw [String.intercalate_nil]
    exact Leads.ofList (by decide)
  | cons s rest ih =>
    have first := plain s List.mem_cons_self
    have others := ih fun t member => plain t (List.mem_cons_of_mem s member)
    cases rest with
    | nil =>
      rw [String.intercalate_singleton]
      exact first
    | cons t rest =>
      rw [String.intercalate_cons_cons]
      exact (first.append glued).append others

end CardCatalog.Sql

namespace CardCatalog.Query

open Sql

namespace Fragment

/-- The text of a fragment closes all it opens and has a placeholder for every parameter. -/
def Closed (f : Fragment) : Prop :=
  Leads f.sql .start ⟨0, false, f.params.length⟩

/-- The text of a fragment is a single pair of parentheses with a closed text between them. -/
def Enclosed (f : Fragment) : Prop :=
  ∃ inside, f.sql = "(" ++ inside ++ ")" ∧ Leads inside .start ⟨0, false, f.params.length⟩

theorem Closed.leads {f : Fragment} (closed : f.Closed) (n k : Nat) :
    Leads f.sql ⟨n, false, k⟩ ⟨n, false, k + f.params.length⟩ :=
  Leads.after closed n k

theorem Closed.placeholders {f : Fragment} (closed : f.Closed) :
    f.placeholders = f.params.length :=
  Leads.count closed

theorem Enclosed.closed {f : Fragment} (enclosed : f.Enclosed) : f.Closed := by
  obtain ⟨inside, same, leads⟩ := enclosed
  have opened : Leads "(" .start ⟨1, false, 0⟩ := .ofList (by decide)
  have closes : Leads ")" ⟨1, false, 0⟩ ⟨0, false, 0⟩ := .ofList (by decide)
  unfold Closed
  rw [same]
  refine (opened.append (leads.after 1 0)).append ?_
  simpa [Place.after] using closes.later f.params.length

theorem Closed.join {glue : String} {f g : Fragment} (glued : Plain glue) (first : f.Closed)
    (second : g.Closed) : (join glue f g).Closed := by
  have blank : Plain " " := .ofList (by decide)
  unfold Closed
  have joined := ((((first.append (blank.leads 0 _)).append (glued.leads 0 _)).append
    (blank.leads 0 _)).append (second.leads 0 _))
  simpa [Fragment.join] using joined

theorem Closed.and {f g : Fragment} (first : f.Closed) (second : g.Closed) : (f.and g).Closed :=
  Closed.join (.ofList (by decide)) first second

theorem Closed.or {f g : Fragment} (first : f.Closed) (second : g.Closed) : (f.or g).Closed :=
  Closed.join (.ofList (by decide)) first second

theorem Closed.negate {f : Fragment} (closed : f.Closed) : f.negate.Closed := by
  have word : Plain "NOT " := .ofList (by decide)
  exact Leads.append word closed

theorem group_sql (f : Fragment) : f.group.sql = "(" ++ (" " ++ f.sql ++ " ") ++ ")" := by
  have opening : "( " = "(" ++ " " := rfl
  have closing : " )" = " " ++ ")" := rfl
  simp only [Fragment.group, opening, closing, String.append_assoc, -String.reduceAppend]

theorem Closed.spaced {f : Fragment} (closed : f.Closed) :
    Leads (" " ++ f.sql ++ " ") .start ⟨0, false, f.params.length⟩ := by
  have blank : Plain " " := .ofList (by decide)
  exact (Leads.append blank closed).append (blank.leads 0 _)

theorem Closed.group {f : Fragment} (closed : f.Closed) : f.group.Enclosed :=
  ⟨_, f.group_sql, closed.spaced⟩

theorem ofValue_closed {sql : String} {n : Nat} (leads : Leads sql .start ⟨0, false, n⟩)
    (value : Param) : (ofValue sql value).Closed := by
  simpa [Closed, ofValue, leads.count] using leads

end Fragment

theorem siblingFaceSql_plain : Plain siblingFaceSql := by
  have meld : Plain "OR (face.layout = 'meld' AND face.side != 'a' AND face.side != 'b') " :=
    .ofList (by decide)
  unfold siblingFaceSql
  have first : Leads "((face.layout != 'meld' AND face.side != 'a') " .start ⟨1, false, 0⟩ :=
    .ofList (by decide)
  have third : Leads "OR (face.side IS NULL AND face.layout = 'split' " ⟨1, false, 0⟩
      ⟨2, false, 0⟩ :=
    .ofList (by decide)
  have last : Leads "AND face.faceName != facename_element(face.name, 0)))" ⟨2, false, 0⟩
      .start :=
    .ofList (by decide)
  exact ((first.append (meld.leads 1 0)).append third).append last

theorem layoutListSql_plain (layouts : List Layout) : Plain (layoutListSql layouts) := by
  refine Plain.intercalate (.ofList (by decide)) fun s member => ?_
  obtain ⟨l, -, rfl⟩ := List.mem_map.1 member
  have opening : Leads "'" .start ⟨0, true, 0⟩ := .ofList (by decide)
  have name : Leads l.name ⟨0, true, 0⟩ ⟨0, true, 0⟩ := by
    cases l <;> simp only [Layout.name] <;> exact .ofList (by decide)
  have closing : Leads "'" ⟨0, true, 0⟩ .start := .ofList (by decide)
  exact (opening.append name).append closing

theorem Fragment.Closed.onFaces {f g : Fragment} (first : f.Closed) (second : g.Closed)
    (layouts : List Layout) : (onFaces f g layouts).Enclosed := by
  have opening : Leads " ( " .start ⟨1, false, 0⟩ := .ofList (by decide)
  have hasFaces : Leads " ) OR ( cards.otherFaceIds IS NOT NULL AND cards.layout IN ("
      ⟨1, false, 0⟩ ⟨2, false, 0⟩ :=
    .ofList (by decide)
  have face : Leads ") AND EXISTS (SELECT 1 FROM cards AS face " ⟨2, false, 0⟩ ⟨2, false, 0⟩ :=
    .ofList (by decide)
  have isFace : Plain "WHERE csv_in(cards.otherFaceIds, face.uuid) AND " :=
    .ofList (by decide)
  have satisfies : Leads " AND ( " ⟨2, false, 0⟩ ⟨3, false, 0⟩ := .ofList (by decide)
  have closing : Leads " )) ) " ⟨3, false, 0⟩ .start := .ofList (by decide)
  have outer : "( ( " = "(" ++ " ( " := rfl
  have last : " )) ) )" = " )) ) " ++ ")" := rfl
  refine ⟨" ( " ++ f.sql ++ " ) OR ( cards.otherFaceIds IS NOT NULL AND cards.layout IN (" ++
    layoutListSql layouts ++ ") AND EXISTS (SELECT 1 FROM cards AS face " ++
    "WHERE csv_in(cards.otherFaceIds, face.uuid) AND " ++ siblingFaceSql ++
    " AND ( " ++ g.sql ++ " )) ) ", ?_, ?_⟩
  next =>
    change "( ( " ++ _ ++ _ ++ _ ++ _ ++ _ ++ _ ++ _ ++ _ ++ " )) ) )" = _
    rw [outer, last]
    simp only [String.append_assoc, -String.reduceAppend]
  next =>
    have first := (opening.append (first.leads 1 0)).append (hasFaces.later _)
    have listed := first.append ((layoutListSql_plain layouts).leads 2 _)
    have among := (listed.append (face.later _)).append (isFace.leads 2 _)
    have sibling := (among.append (siblingFaceSql_plain.leads 2 _)).append (satisfies.later _)
    have whole := (sibling.append (second.leads 3 _)).append (closing.later _)
    have count : (Fragment.onFaces f g layouts).params.length =
        0 + f.params.length + g.params.length := by
      rw [Nat.zero_add]
      exact List.length_append
    rw [count]
    exact whole

theorem Comparison.sql_plain (c : Comparison) : Plain c.sql := by
  cases c <;> simp only [Comparison.sql] <;> exact .ofList (by decide)

theorem integerSql_leads {column : String} (plain : Plain column) (c : Comparison) :
    Leads (integerSql column c) .start ⟨0, false, 1⟩ := by
  have cast : Leads "CAST(" .start ⟨1, false, 0⟩ := .ofList (by decide)
  have integer : Leads " AS INTEGER) " ⟨1, false, 0⟩ .start := .ofList (by decide)
  have bound : Leads " ?" .start ⟨0, false, 1⟩ := .ofList (by decide)
  exact (((cast.append (plain.leads 1 0)).append integer).append c.sql_plain).append bound

theorem typeSql_leads {table : String} (plain : Plain table) :
    Leads (typeSql table) .start ⟨0, false, 3⟩ := by
  have opening : Leads "(csv_in(lower(" .start ⟨3, false, 0⟩ := .ofList (by decide)
  have subtypes : Leads ".subtypes), lower(?)) OR " ⟨3, false, 0⟩ ⟨1, false, 1⟩ :=
    .ofList (by decide)
  have again : Leads "csv_in(lower(" ⟨1, false, 0⟩ ⟨3, false, 0⟩ := .ofList (by decide)
  have supertypes : Leads ".supertypes), lower(?)) OR " ⟨3, false, 1⟩ ⟨1, false, 2⟩ :=
    .ofList (by decide)
  have types : Leads ".types), lower(?)))" ⟨3, false, 2⟩ ⟨0, false, 3⟩ := .ofList (by decide)
  have first := ((opening.append (plain.leads 3 0)).append subtypes).append (again.later 1)
  have second := ((first.append (plain.leads 3 1)).append supertypes).append (again.later 2)
  exact (second.append (plain.leads 3 2)).append types

theorem setComparisonSql_leads {fns : SetFunctions} {column : String} (size : Plain fns.size)
    (contains : Plain fns.contains) (plain : Plain column) (c : Comparison) :
    ∃ n, Leads (setComparisonSql fns column c) .start ⟨0, false, n⟩ := by
  have opening : Leads "( " .start ⟨1, false, 0⟩ := .ofList (by decide)
  have closing : Leads " )" ⟨1, false, 0⟩ .start := .ofList (by decide)
  have glue : Plain " AND " := .ofList (by decide)
  have call : Leads "(" .start ⟨1, false, 0⟩ := .ofList (by decide)
  have done : Leads ") " ⟨1, false, 0⟩ .start := .ofList (by decide)
  have blank : Plain " " := .ofList (by decide)
  have value : Leads "(lower(?))" .start ⟨0, false, 1⟩ := .ofList (by decide)
  have sizes (c : Comparison) : Leads (fns.size ++ "(" ++ column ++ ") " ++ c.sql ++ " " ++
      fns.size ++ "(lower(?))") .start ⟨0, false, 1⟩ :=
    ((((((size.append call).append (plain.leads 1 0)).append done).append c.sql_plain).append
      blank).append size).append value
  have above : Leads (fns.contains ++ "(lower(" ++ column ++ "), lower(?))") .start
      ⟨0, false, 1⟩ := by
    have opened : Leads "(lower(" .start ⟨2, false, 0⟩ := .ofList (by decide)
    have closed : Leads "), lower(?))" ⟨2, false, 0⟩ ⟨0, false, 1⟩ := .ofList (by decide)
    exact ((contains.append opened).append (plain.leads 2 0)).append closed
  have below : Leads (fns.contains ++ "(lower(?), lower(" ++ column ++ "))") .start
      ⟨0, false, 1⟩ := by
    have opened : Leads "(lower(?), lower(" .start ⟨2, false, 1⟩ := .ofList (by decide)
    have closed : Leads "))" ⟨2, false, 0⟩ .start := .ofList (by decide)
    exact ((contains.append opened).append (plain.leads 2 1)).append (closed.later 1)
  have both {s t : String} (first : Leads s .start ⟨0, false, 1⟩)
      (second : Leads t .start ⟨0, false, 1⟩) :
      Leads ("( " ++ s ++ " AND " ++ t ++ " )") .start ⟨0, false, 2⟩ :=
    (((opening.append (first.after 1 0)).append (glue.leads 1 1)).append
      (second.after 1 1)).append (closing.later 2)
  have equal : Leads ("( " ++ _ ++ " AND " ++ _ ++ " AND " ++ _ ++ " )") .start ⟨0, false, 3⟩ :=
    (((((opening.append ((sizes .equal).after 1 0)).append (glue.leads 1 1)).append
      (below.after 1 1)).append (glue.leads 1 2)).append (above.after 1 2)).append
      (closing.later 3)
  cases c with
  | equal => exact ⟨3, equal⟩
  | differs =>
    have word : Plain "NOT " := .ofList (by decide)
    exact ⟨3, word.append equal⟩
  | greater => exact ⟨2, both (sizes .greater) above⟩
  | less => exact ⟨2, both (sizes .less) below⟩
  | atLeast => exact ⟨2, both (sizes .atLeast) above⟩
  | atMost => exact ⟨2, both (sizes .atMost) below⟩

theorem Fragment.integerSql_closed {column : String} (plain : Plain column) (c : Comparison)
    (value : Param) : (ofValue (integerSql column c) value).Closed :=
  ofValue_closed (integerSql_leads plain c) value

theorem Fragment.setComparisonSql_closed {fns : SetFunctions} {column : String}
    (size : Plain fns.size) (contains : Plain fns.contains) (plain : Plain column)
    (c : Comparison) (value : Param) : (ofValue (setComparisonSql fns column c) value).Closed := by
  obtain ⟨n, leads⟩ := setComparisonSql_leads size contains plain c
  exact ofValue_closed leads value

theorem Fragment.nameSql_closed {column sign : String} (name : Plain column) (plain : Plain sign)
    (value : Param) : (ofValue (column ++ sign ++ " lower(?)") value).Closed := by
  have bound : Leads " lower(?)" .start ⟨0, false, 1⟩ := .ofList (by decide)
  exact ofValue_closed ((name.append plain).append bound) value

open Fragment in
theorem Term.fragment_enclosed (t : Term) : t.fragment.Enclosed := by
  cases t with
  | name value exact =>
    have stored : Plain "lower(v_name) " := .ofList (by decide)
    have face : Plain "lower(face.faceName) " := .ofList (by decide)
    have like : Plain "LIKE" := .ofList (by decide)
    have equal : Plain "=" := .ofList (by decide)
    cases exact with
    | false => exact (nameSql_closed stored like _).onFaces (nameSql_closed face like _) _
    | true => exact (nameSql_closed stored equal _).onFaces (nameSql_closed face equal _) _
  | text value =>
    have primary : Leads "lower(cards.text) LIKE lower(?)" .start ⟨0, false, 1⟩ :=
      .ofList (by decide)
    have alternate : Leads "lower(face.text) LIKE lower(?)" .start ⟨0, false, 1⟩ :=
      .ofList (by decide)
    exact (ofValue_closed primary _).onFaces (ofValue_closed alternate _) _
  | column column value =>
    have opening : Leads "lower(" .start ⟨1, false, 0⟩ := .ofList (by decide)
    have name : Plain column.sql := by
      cases column <;> simp only [TextColumn.sql] <;> exact .ofList (by decide)
    have closing : Leads ") = lower(?)" ⟨1, false, 0⟩ ⟨0, false, 1⟩ := .ofList (by decide)
    exact (ofValue_closed ((opening.append (name.leads 1 0)).append closing) _).group
  | measure measure c n =>
    cases measure with
    | cmc =>
      have column : Plain "cards.convertedManaCost " := .ofList (by decide)
      have bound : Leads " ?" .start ⟨0, false, 1⟩ := .ofList (by decide)
      exact (ofValue_closed ((column.append c.sql_plain).append bound) _).group
    | loyalty | year => exact (integerSql_closed (.ofList (by decide)) c _).group
    | power | toughness =>
      exact (integerSql_closed (.ofList (by decide)) c _).onFaces
        (integerSql_closed (.ofList (by decide)) c _) _
  | price c amount =>
    have opening : Leads "(prices.price " .start ⟨1, false, 0⟩ := .ofList (by decide)
    have closing : Leads " round(?, 2) AND prices.type = 'paper')" ⟨1, false, 0⟩ ⟨0, false, 1⟩ :=
      .ofList (by decide)
    exact (ofValue_closed ((opening.append (c.sql_plain.leads 1 0)).append closing)
      _).group
  | type value =>
    have primary : Leads (typeSql "cards") .start ⟨0, false, 3⟩ :=
      typeSql_leads (.ofList (by decide))
    have alternate : Leads (typeSql "face") .start ⟨0, false, 3⟩ :=
      typeSql_leads (.ofList (by decide))
    exact (ofValue_closed primary _).onFaces (ofValue_closed alternate _) _
  | colors c tags =>
    have size : Plain colorFunctions.size := Leads.ofList (by decide)
    have contains : Plain colorFunctions.contains := Leads.ofList (by decide)
    exact (setComparisonSql_closed size contains (.ofList (by decide)) c _).onFaces
      (setComparisonSql_closed size contains (.ofList (by decide)) c _) _
  | mana c cost =>
    have size : Plain manaFunctions.size := Leads.ofList (by decide)
    have contains : Plain manaFunctions.contains := Leads.ofList (by decide)
    exact (setComparisonSql_closed size contains (.ofList (by decide)) c _).onFaces
      (setComparisonSql_closed size contains (.ofList (by decide)) c _) _

/-- A query closes all it opens, with a placeholder for every parameter of its terms. -/
theorem fragment_closed {r : Rank} (q : Query r) : q.fragment.Closed := by
  induction q with
  | term t => exact t.fragment_enclosed.closed
  | not q ih => exact ih.negate
  | group q ih => exact ih.group.closed
  | one q ih => exact ih
  | and p q ihp ihq => exact ihp.and ihq
  | only p ih => exact ih
  | or p q ihp ihq => exact ihp.or ihq

end CardCatalog.Query
