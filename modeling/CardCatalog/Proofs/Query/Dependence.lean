import Mathlib
import CardCatalog.Store.Condition

/-!
What the truth of a query depends on. Main statements: only formats are looked up in the legality
of a joined row, and terms on the columns of a card are unknown only where there is no text or no
rarity.
-/

set_option autoImplicit false

namespace CardCatalog.Query

/-- The keyword that a term is written with. -/
def Term.keyword : Term → Keyword
  | name .. => .name
  | text _ => .text
  | column .setCode _ => .set
  | column .format _ => .legal
  | column .rarity _ => .rarity
  | column .layout _ => .layout
  | measure .cmc .. => .cmc
  | measure .loyalty .. => .loyalty
  | measure .power .. => .power
  | measure .toughness .. => .toughness
  | measure .year .. => .year
  | price .. => .price
  | type _ => .type
  | colors .. => .colors
  | mana .. => .mana

theorem keyword_of_term? {rate : Float} {k : Keyword} {c : Comparison} {exact : Bool}
    {value : String} {t : Term} (accepted : k.term? rate c exact value = some t) :
    t.keyword = k := by
  cases k
  all_goals
    simp only [Keyword.term?, Option.some.injEq, Option.map_eq_some_iff] at accepted
    first
      | (subst accepted; rfl)
      | (obtain ⟨_, -, rfl⟩ := accepted; rfl)

/-- A term looks at the cards of the catalogue and at the row with its set; at the legality and
the price of the row only where its keyword asks for them. -/
theorem Term.truth_congr {s u : Store} {t : Term} {i j : JoinedRow} (cards : s.cards = u.cards)
    (card : i.card = j.card) (set : i.set = j.set)
    (legality : t.keyword = .legal → i.legality = j.legality)
    (price : t.keyword = .price → i.price = j.price) : t.truth s i = t.truth u j := by
  cases t with
  | column c value =>
    cases c with
    | format => simp only [truth, onFace?, onRow, TextColumn.value, legality rfl]
    | _ => simp only [truth, onFace?, onRow, TextColumn.value, card]
  | measure m =>
    cases m <;> simp only [truth, onFace?, onRow, onSomeFace, card, set, cards]
  | price => simp only [truth, onFace?, onRow, price rfl]
  | _ => simp only [truth, onFace?, onRow, onSomeFace, Store.wholeColors, card, cards]

section

variable {r : Rank}

theorem eval_congr {value other : Term → Truth} {q : Query r}
    (same : ∀ t ∈ q.terms, value t = other t) : q.eval value = q.eval other := by
  induction q <;> simp_all [eval, terms]

theorem eval_ne_unknown {value : Term → Truth} {q : Query r}
    (known : ∀ t ∈ q.terms, value t ≠ .unknown) : q.eval value ≠ .unknown := by
  induction q with
  | term t => exact known t (List.mem_singleton_self t)
  | not q ih => exact fun unknown => ih known (Truth.not_eq_unknown.1 unknown)
  | group q ih | one q ih | only q ih => exact ih known
  | and p q ihp ihq =>
    exact Truth.and_ne_unknown (ihp fun t member => known t (List.mem_append_left _ member))
      (ihq fun t member => known t (List.mem_append_right _ member))
  | or p q ihp ihq =>
    exact Truth.or_ne_unknown (ihp fun t member => known t (List.mem_append_left _ member))
      (ihq fun t member => known t (List.mem_append_right _ member))

theorem truth_eq_of_legality {s : Store} {q : Query r} (plain : ∀ t ∈ q.terms, t.keyword ≠ .legal)
    {i j : JoinedRow} (card : i.card = j.card) (set : i.set = j.set) (price : i.price = j.price) :
    q.truth s i = q.truth s j :=
  eval_congr fun t member =>
    Term.truth_congr rfl card set (fun legal => absurd legal (plain t member)) fun _ => price

end

/-! ## Terms that are never unknown -/

theorem orderInt_isSome {x : Float} (number : Number.isNaN x = false) (n : Int) :
    (Number.orderInt x n).isSome = true := by
  simp only [Number.isNaN, decide_eq_false_iff_not] at number
  unfold Number.orderInt
  split
  next nan => exact absurd nan number
  next => rfl
  next =>
    dsimp only
    split <;> rfl

/-- The keywords of terms on the columns that every card has, and on its text and its rarity. -/
def printedKeywords : List Keyword :=
  [.name, .text, .set, .rarity, .layout, .type, .cmc, .colors, .mana]

theorem Term.truth_ne_unknown {s : Store} {t : Term} {j : JoinedRow}
    (number : Number.isNaN j.card.cmc = false) (printed : t.keyword ∈ printedKeywords)
    (text : j.card.text = none → t.keyword ≠ .text)
    (rarity : j.card.rarity = none → t.keyword ≠ .rarity) : t.truth s j ≠ .unknown := by
  cases t with
  | name | type | colors | mana =>
    exact Truth.or_ne_unknown (Truth.ofBool_ne_unknown _) (Truth.ofBool_ne_unknown _)
  | text value =>
    have present : j.card.text.isSome = true := by
      rw [Option.isSome_iff_ne_none]
      exact fun missing => text missing rfl
    exact Truth.or_ne_unknown (Truth.ofOption_ne_unknown present) (Truth.ofBool_ne_unknown _)
  | column c value =>
    cases c with
    | setCode | layout => exact Truth.ofBool_ne_unknown _
    | format => simp [keyword, printedKeywords] at printed
    | rarity =>
      have present : j.card.rarity.isSome = true := by
        rw [Option.isSome_iff_ne_none]
        exact fun missing => rarity missing rfl
      exact Truth.ofOption_ne_unknown present
  | measure m c n =>
    cases m with
    | cmc => exact Truth.ofOption_ne_unknown (orderInt_isSome number n)
    | _ => simp [keyword, printedKeywords] at printed
  | price => simp [keyword, printedKeywords] at printed

end CardCatalog.Query
