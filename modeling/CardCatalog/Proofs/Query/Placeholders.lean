import Mathlib
import CardCatalog.Proofs.Except
import CardCatalog.Proofs.Sql.Text
import CardCatalog.Query.Parser

/-!
Which value a placeholder stands for. Main statement: the parameters of a condition are those of
its terms one after the other, and before the text of a term stand as many placeholders as the
terms before it have parameters.
-/

set_option autoImplicit false

namespace CardCatalog.Query

open Sql

/-- The terms of a condition from left to right. -/
def termsOf (query : Option (Query .any)) : List Term :=
  match query with
  | some q => q.terms
  | none => []

def paramsOf (terms : List Term) : List Param :=
  terms.flatMap fun t => t.fragment.params

theorem paramsOf_append (first second : List Term) :
    paramsOf (first ++ second) = paramsOf first ++ paramsOf second := by
  simp [paramsOf]

theorem params_fragment {r : Rank} (q : Query r) : q.fragment.params = paramsOf q.terms := by
  induction q with
  | term t => simp [fragment, terms, paramsOf]
  | not q ih | group q ih | one q ih | only q ih => exact ih
  | and p q ihp ihq | or p q ihp ihq =>
    rw [terms, paramsOf_append, ← ihp, ← ihq]
    rfl

/-- The text of a term stands in a text, outside of literals and after `k` placeholders. -/
def Holds (sql : String) (k : Nat) (t : Term) : Prop :=
  ∃ u v n, sql = u ++ t.fragment.sql ++ v ∧ Leads u .start ⟨n, false, k⟩

theorem Holds.append {sql : String} {k : Nat} {t : Term} (holds : Holds sql k t)
    (closing : String) : Holds (sql ++ closing) k t := by
  obtain ⟨u, v, n, rfl, leads⟩ := holds
  exact ⟨u, v ++ closing, n, String.append_assoc, leads⟩

theorem Holds.prepend {opening sql : String} {n j k : Nat} {t : Term}
    (opens : Leads opening .start ⟨n, false, j⟩) (holds : Holds sql k t) :
    Holds (opening ++ sql) (j + k) t := by
  obtain ⟨u, v, m, rfl, leads⟩ := holds
  refine ⟨opening ++ u, v, n + m, ?_, ?_⟩
  next => simp only [String.append_assoc]
  next => exact opens.append (leads.after n j)

/-- Each of the terms stands in a text after the placeholders of those before it. -/
def HoldsAll (sql : String) (terms : List Term) : Prop :=
  ∀ before t after, terms = before ++ t :: after → Holds sql (paramsOf before).length t

theorem HoldsAll.join {f g : Fragment} {ts us : List Term} {glue : String} (closed : f.Closed)
    (glued : Plain glue) (params : f.params = paramsOf ts) (first : HoldsAll f.sql ts)
    (second : HoldsAll g.sql us) : HoldsAll (Fragment.join glue f g).sql (ts ++ us) := by
  intro before t after split
  have opens : Leads (f.sql ++ " " ++ glue ++ " ") .start ⟨0, false, (paramsOf ts).length⟩ := by
    have blank : Plain " " := .ofList (by decide)
    rw [← params]
    exact ((closed.append (blank.leads 0 _)).append (glued.leads 0 _)).append (blank.leads 0 _)
  rcases List.append_eq_append_iff.1 split with ⟨more, rfl, others⟩ | ⟨more, rfl, others⟩
  next =>
    rw [paramsOf_append, List.length_append]
    exact (second more t after others).prepend opens
  next =>
    cases more with
    | nil =>
      rw [List.append_nil] at opens
      exact (second [] t after others.symm).prepend opens
    | cons head more =>
      cases others
      have holds := (first before t more rfl).append (" " ++ glue ++ " " ++ g.sql)
      simpa only [Fragment.join, String.append_assoc] using holds

theorem HoldsAll.prepend {opening sql : String} {n : Nat} {terms : List Term}
    (opens : Leads opening .start ⟨n, false, 0⟩) (holds : HoldsAll sql terms) :
    HoldsAll (opening ++ sql) terms := by
  intro before t after split
  have later := (holds before t after split).prepend opens
  rwa [Nat.zero_add] at later

theorem HoldsAll.append {sql : String} {terms : List Term} (holds : HoldsAll sql terms)
    (closing : String) : HoldsAll (sql ++ closing) terms := by
  intro before t after split
  exact (holds before t after split).append closing

theorem holdsAll_fragment {r : Rank} (q : Query r) : HoldsAll q.fragment.sql q.terms := by
  induction q with
  | term t =>
    intro before t' after split
    have alone : before = [] ∧ t' = t := by
      cases before <;> simp_all [terms]
    obtain ⟨rfl, rfl⟩ := alone
    exact ⟨"", "", 0, by simp [fragment], .ofList (by decide)⟩
  | not q ih =>
    have opens : Leads "NOT " .start ⟨0, false, 0⟩ := .ofList (by decide)
    exact ih.prepend opens
  | group q ih =>
    have opens : Leads "( " .start ⟨1, false, 0⟩ := .ofList (by decide)
    exact (ih.prepend opens).append " )"
  | one q ih | only q ih => exact ih
  | and p q ihp ihq | or p q ihp ihq =>
    exact .join (fragment_closed p) (.ofList (by decide)) (params_fragment p) ihp ihq

/-- The placeholders of a condition are as many as its parameters, which are those of its terms
from left to right, and those in the text of a term are where its parameters are. -/
theorem placeholders_condition (rate : Float) (text : String) {f : Fragment}
    (compiles : (compile rate text).map conditionOf = .ok f) :
    ∃ query, compile rate text = .ok query ∧
      f.placeholders = f.params.length ∧ f.params = paramsOf (termsOf query) ∧
      ∀ before t after, termsOf query = before ++ t :: after →
        t.fragment.placeholders = t.fragment.params.length ∧
        ∃ u v, f.sql = u ++ t.fragment.sql ++ v ∧
          countPlaceholders u = (paramsOf before).length ∧
          ∀ w, countPlaceholders (u ++ w) = countPlaceholders u + countPlaceholders w := by
  obtain ⟨query, parses, rfl⟩ := map_eq_ok_iff.1 compiles
  refine ⟨query, parses, ?_⟩
  cases query with
  | none =>
    refine ⟨rfl, rfl, ?_⟩
    intro before t after split
    cases before <;> cases split
  | some q =>
    refine ⟨(fragment_closed q).placeholders, params_fragment q, ?_⟩
    intro before t after split
    obtain ⟨u, v, n, same, leads⟩ := holdsAll_fragment q before t after split
    refine ⟨t.fragment_enclosed.closed.placeholders, u, v, same, leads.count, ?_⟩
    intro w
    exact leads.count_append

theorem placeholders_condition_type_or_name :
    ∃ (f : Fragment) (query : Option (Query .any)),
      (compile 1 "t:elf or -a").map conditionOf = .ok f ∧
      compile 1 "t:elf or -a" = .ok query ∧
      f.placeholders = f.params.length ∧ f.params = paramsOf (termsOf query) ∧
      ∀ before t after, termsOf query = before ++ t :: after →
        t.fragment.placeholders = t.fragment.params.length ∧
        ∃ u v, f.sql = u ++ t.fragment.sql ++ v ∧
          countPlaceholders u = (paramsOf before).length ∧
          ∀ w, countPlaceholders (u ++ w) = countPlaceholders u + countPlaceholders w := by
  have terms : compile 1 "t:elf or -a" = .ok (some (.or (.only (.one (.term (.type "elf"))))
      (.one (.not (.term (.name "a" false)))))) := by
    cbv
  have compiles := congrArg (Except.map conditionOf) terms
  obtain ⟨query, aligned⟩ := placeholders_condition 1 "t:elf or -a" compiles
  exact ⟨_, query, compiles, aligned⟩

end CardCatalog.Query
