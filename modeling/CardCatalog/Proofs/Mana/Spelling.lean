import CardCatalog.Proofs.Mana.Containment
import CardCatalog.Proofs.NameList

/-!
The spellings of a mana cost: each symbol in any case, bare or in braces, and a hybrid one with
its halves in either order. Main statement: all spellings of a list of symbols are read as that
list, and costs with the same symbols in any order have the same total and contain the same costs.
-/

set_option autoImplicit false

namespace CardCatalog.Mana

/-- A run of digits or a letter. -/
inductive Part where
  | digits (run : List Char) (given : run ≠ []) (digit : ∀ c ∈ run, c.isDigit = true)
  | letter (c : Char) (alpha : c.isAlpha = true)

namespace Part

def text : Part → List Char
  | digits run _ _ => run
  | letter c _ => [c]

def low (p : Part) : List Char :=
  p.text.map Char.toLower

theorem low_ne_nil (p : Part) : p.low ≠ [] := by
  cases p with
  | digits run given digit => simpa [low, text] using given
  | letter c alpha => simp [low, text]

theorem map_toLower_low (p : Part) : p.low.map Char.toLower = p.low :=
  Text.map_toLower_map_toLower p.text

theorem low_digits {run : List Char} (given : run ≠ []) (digit : ∀ c ∈ run, c.isDigit = true) :
    (digits run given digit).low = run :=
  (List.map_congr_left fun c member => Text.toLower_of_isDigit (digit c member)).trans
    (List.map_id run)

theorem isAlphanum_of_mem_low {p : Part} {c : Char} (member : c ∈ p.low) :
    c.isAlphanum = true := by
  obtain ⟨d, written, rfl⟩ := List.mem_map.1 member
  rw [Text.apply_toLower Char.isAlphanum (by decide)]
  cases p with
  | digits run given digit => simp [Char.isAlphanum, digit d written]
  | letter c alpha =>
    obtain rfl := List.mem_singleton.1 written
    simp [Char.isAlphanum, alpha]

end Part

/-! ## What stands in braces -/

theorem toNat_lt_of_isAlphanum {c : Char} (plain : c.isAlphanum = true) : c.toNat < 128 := by
  have last : 'Z'.val.toNat = 90 ∧ 'z'.val.toNat = 122 ∧ '9'.val.toNat = 57 := ⟨rfl, rfl, rfl⟩
  have code : c.toNat = c.val.toNat := rfl
  simp only [Char.isAlphanum, Char.isAlpha, Char.isUpper, Char.isLower, Char.isDigit,
    Bool.or_eq_true, Bool.and_eq_true, decide_eq_true_eq, UInt32.le_iff_toNat_le, ge_iff_le]
    at plain
  omega

theorem isBlank_of_isAlphanum {c : Char} (plain : c.isAlphanum = true) :
    Text.isBlank c = false :=
  Text.forall_of_ascii (p := fun c => c.isAlphanum = true → Text.isBlank c = false)
    (by decide) (toNat_lt_of_isAlphanum plain) plain

section

variable {cs : List Char} (content : ∀ c ∈ cs, c.isAlphanum = true ∨ c = '/')

include content

theorem trimChars_content : Text.trimChars cs = cs := by
  apply Text.trimChars_of_forall
  intro c member
  obtain plain | rfl := content c member
  next => exact isBlank_of_isAlphanum plain
  next => decide

theorem lowerChars_content : Text.lowerChars [] cs = cs.map Char.toLower := by
  apply Text.lowerChars_of_ascii
  intro c member
  obtain plain | rfl := content c member
  next => exact toNat_lt_of_isAlphanum plain
  next => decide

theorem symbolsOf_closed (given : cs ≠ []) (rest : List Char) :
    symbolsOf ('{' :: (cs ++ '}' :: rest)) = normalize cs :: symbolsOf rest := by
  have inside (c : Char) (member : c ∈ cs) : (c != '}') = true := by
    rw [bne_iff_ne]
    rintro rfl
    obtain plain | slash := content _ member
    next => exact absurd plain (by decide)
    next => exact absurd slash (by decide)
  have taken : (cs ++ '}' :: rest).takeWhile (· != '}') = cs := by
    rw [List.takeWhile_append_of_pos inside, List.takeWhile_cons_of_neg (by simp),
      List.append_nil]
  have dropped : (cs ++ '}' :: rest).dropWhile (· != '}') = '}' :: rest := by
    rw [List.dropWhile_append_of_pos inside, List.dropWhile_cons_of_neg (by simp)]
  rw [symbolsOf_brace]
  simp only [taken, dropped, trimChars_content content, given, if_false, List.drop_succ_cons,
    List.drop_zero]

end

/-- The halves of a hybrid symbol, in order. -/
def joinHalves (a b : String) : String :=
  if a ≤ b then a ++ "/" ++ b else b ++ "/" ++ a

theorem joinHalves_comm (a b : String) : joinHalves a b = joinHalves b a := by
  unfold joinHalves
  by_cases first : a ≤ b
  next =>
    by_cases second : b ≤ a
    next => rw [le_antisymm first second]
    next => rw [if_pos first, if_neg second]
  next => rw [if_neg first, if_pos ((le_total a b).resolve_left first)]

theorem intercalate_mergeSort_pair (a b : String) :
    "/".intercalate ([a, b].mergeSort (fun a b => decide (a ≤ b))) = joinHalves a b := by
  have sorted : [a, b].mergeSort (fun a b => decide (a ≤ b)) =
      if a ≤ b then [a, b] else [b, a] := by
    simp [List.mergeSort, List.MergeSort.Internal.splitInTwo, List.merge]
  rw [sorted, joinHalves]
  split <;> simp [String.append_assoc]

namespace Part

variable (p q : Part)

theorem slash_notMem_low : '/' ∉ p.low := fun member =>
  absurd (isAlphanum_of_mem_low member) (by decide)

theorem content_low (c : Char) (member : c ∈ p.low) : c.isAlphanum = true ∨ c = '/' :=
  .inl (isAlphanum_of_mem_low member)

theorem content_hybrid (c : Char) (member : c ∈ p.low ++ '/' :: q.low) :
    c.isAlphanum = true ∨ c = '/' := by
  rw [List.mem_append, List.mem_cons] at member
  obtain left | middle | right := member
  next => exact p.content_low c left
  next => exact .inr middle
  next => exact q.content_low c right

theorem normalize_low : normalize p.low = String.ofList p.low := by
  simp only [normalize, trimChars_content p.content_low, lowerChars_content p.content_low,
    map_toLower_low, slash_notMem_low, if_false]

theorem normalize_hybrid : normalize (p.low ++ '/' :: q.low) =
    joinHalves (String.ofList p.low) (String.ofList q.low) := by
  have low : (p.low ++ '/' :: q.low).map Char.toLower = p.low ++ '/' :: q.low := by
    simp [map_toLower_low, show Char.toLower '/' = '/' from rfl]
  have halves : Text.splitOn '/' (p.low ++ '/' :: q.low) = [p.low, q.low] := by
    rw [Text.splitOn_append_cons p.slash_notMem_low, Text.splitOn_of_notMem q.slash_notMem_low]
  simp only [normalize, trimChars_content (content_hybrid p q),
    lowerChars_content (content_hybrid p q), low, halves]
  rw [if_pos (by simp)]
  exact intercalate_mergeSort_pair _ _

theorem symbolsOf_hybrid (rest : List Char) :
    symbolsOf ('{' :: (p.low ++ '/' :: q.low ++ '}' :: rest)) =
      joinHalves (String.ofList p.low) (String.ofList q.low) :: symbolsOf rest := by
  rw [symbolsOf_closed (content_hybrid p q) (by simp), normalize_hybrid]

/-! ## A part on its own -/

theorem symbolsOf_low {rest : List Char}
    (stop : (∀ c ∈ p.low, c.isDigit = true) → ∀ c ∈ rest.head?, c.isDigit = false) :
    symbolsOf (p.low ++ rest) = String.ofList p.low :: symbolsOf rest := by
  cases p with
  | digits run given digit =>
    rw [low_digits] at *
    obtain ⟨c, run, rfl⟩ := List.exists_cons_of_ne_nil given
    obtain ⟨first, others⟩ := List.forall_mem_cons.1 digit
    have ends : rest.takeWhile Char.isDigit = [] ∧ rest.dropWhile Char.isDigit = rest := by
      cases rest with
      | nil => exact ⟨rfl, rfl⟩
      | cons d tail =>
        have other := stop digit d rfl
        exact ⟨List.takeWhile_cons_of_neg (by simp [other]),
          List.dropWhile_cons_of_neg (by simp [other])⟩
    rw [List.cons_append, symbolsOf_digit _ first, List.takeWhile_append_of_pos others,
      List.dropWhile_append_of_pos others, ends.1, ends.2, List.append_nil]
  | letter c alpha =>
    have ascii : c.toNat < 128 := toNat_lt_of_isAlphanum (by simp [Char.isAlphanum, alpha])
    have letter : Text.isAlphabetic c = true ∧ c.isDigit = false ∧ c ≠ '{' :=
      Text.forall_of_ascii (p := fun c => c.isAlpha = true →
        Text.isAlphabetic c = true ∧ c.isDigit = false ∧ c ≠ '{') (by decide) ascii alpha
    have opening : c.toLower ≠ '{' := (Text.toLower_eq_iff (by decide) c).not.2 letter.2.2
    show symbolsOf (c.toLower :: rest) = String.ofList [c.toLower] :: symbolsOf rest
    rw [symbolsOf_letter _ opening (by simp [letter.2.1]) (by simp [letter.1]),
      Text.lowerChar_toLower, Text.lowerChar_of_ascii ascii]

end Part

/-! ## Spellings -/

/-- A symbol of a cost: a part, or a hybrid of two. -/
inductive CostSymbol where
  | plain (p : Part)
  | hybrid (p q : Part)

def CostSymbol.read : CostSymbol → String
  | plain p => String.ofList p.low
  | hybrid p q => joinHalves (String.ofList p.low) (String.ofList q.low)

/-- How a symbol may be written. -/
inductive Written : CostSymbol → List Char → Prop where
  | bare {p : Part} {cs : List Char} (same : cs.map Char.toLower = p.low) :
      Written (.plain p) cs
  | braced {p : Part} {cs : List Char} (same : cs.map Char.toLower = p.low) :
      Written (.plain p) ('{' :: (cs ++ ['}']))
  | hybrid {p q : Part} {cs ds : List Char} (left : cs.map Char.toLower = p.low)
      (right : ds.map Char.toLower = q.low) :
      Written (.hybrid p q) ('{' :: (cs ++ '/' :: ds ++ ['}']))
  | swapped {p q : Part} {cs ds : List Char} (left : cs.map Char.toLower = p.low)
      (right : ds.map Char.toLower = q.low) :
      Written (.hybrid p q) ('{' :: (ds ++ '/' :: cs ++ ['}']))

def IsNumber (piece : List Char) : Prop :=
  ∀ c ∈ piece, c.isDigit = true

/-- A cost written symbol by symbol, with no bare number right after another. -/
structure Spelling (symbols : List CostSymbol) where
  pieces : List (List Char)
  written : List.Forall₂ Written symbols pieces
  apart : pieces.IsChain fun piece next => ¬ (IsNumber piece ∧ IsNumber next)

def Spelling.text {symbols : List CostSymbol} (s : Spelling symbols) : String :=
  String.ofList s.pieces.flatten

theorem isNumber_map_toLower {piece : List Char} :
    IsNumber (piece.map Char.toLower) ↔ IsNumber piece := by
  simp only [IsNumber, List.forall_mem_map, Text.isDigit_toLower]

namespace Written

variable {symbol : CostSymbol} {piece : List Char} (written : Written symbol piece)

include written

theorem ne_nil : piece ≠ [] := by
  cases written with
  | @bare p cs same =>
    rintro rfl
    exact p.low_ne_nil same.symm
  | braced | hybrid | swapped => exact List.cons_ne_nil _ _

theorem isNumber_of_head {c : Char} (first : c ∈ piece.head?) (digit : c.isDigit = true) :
    IsNumber piece := by
  cases written with
  | @bare p cs same =>
    cases p with
    | digits run given all => rwa [← isNumber_map_toLower, same, Part.low_digits]
    | letter d alpha =>
      -- The whole piece is the one character.
      obtain ⟨e, rfl, -⟩ := List.map_eq_singleton_iff.1 same
      obtain rfl := Option.mem_some.1 first
      exact fun f member => List.mem_singleton.1 member ▸ digit
  | braced | hybrid | swapped =>
    obtain rfl := Option.mem_some.1 first
    exact absurd digit (by decide)

theorem symbolsOf_append {rest : List Char}
    (stop : IsNumber piece → ∀ c ∈ rest.head?, c.isDigit = false) :
    symbolsOf (piece ++ rest) = symbol.read :: symbolsOf rest := by
  have marks : Char.toLower '{' = '{' ∧ Char.toLower '/' = '/' ∧ Char.toLower '}' = '}' :=
    ⟨rfl, rfl, rfl⟩
  rw [← symbolsOf_map_toLower, ← symbolsOf_map_toLower rest]
  cases written with
  | @bare p cs same =>
    rw [List.map_append, same]
    apply p.symbolsOf_low
    intro number c first
    rw [List.head?_map, Option.mem_map] at first
    obtain ⟨d, first, rfl⟩ := first
    rw [Text.isDigit_toLower]
    exact stop (isNumber_map_toLower.1 (same ▸ number)) d first
  | @braced p cs same =>
    simp only [List.map_append, List.map_cons, List.append_assoc, List.cons_append,
      List.nil_append, marks, same]
    rw [symbolsOf_closed p.content_low p.low_ne_nil, p.normalize_low, CostSymbol.read]
  | @hybrid p q cs ds left right =>
    have read := p.symbolsOf_hybrid q (rest.map Char.toLower)
    simpa [CostSymbol.read, marks, left, right] using read
  | @swapped p q cs ds left right =>
    have read := q.symbolsOf_hybrid p (rest.map Char.toLower)
    rw [joinHalves_comm] at read
    simpa [CostSymbol.read, marks, left, right] using read

end Written

theorem isDigit_flatten_head {symbols : List CostSymbol} {pieces : List (List Char)}
    (written : List.Forall₂ Written symbols pieces) {c : Char} (first : c ∈ pieces.flatten.head?)
    (digit : c.isDigit = true) : ∃ piece ∈ pieces.head?, IsNumber piece := by
  cases written with
  | nil => cases first
  | @cons symbol piece symbols pieces one others =>
    rw [List.flatten_cons, List.head?_append_of_ne_nil _ one.ne_nil] at first
    exact ⟨piece, rfl, one.isNumber_of_head first digit⟩

theorem symbolsOf_flatten {symbols : List CostSymbol} {pieces : List (List Char)}
    (written : List.Forall₂ Written symbols pieces)
    (apart : pieces.IsChain fun piece next => ¬ (IsNumber piece ∧ IsNumber next)) :
    symbolsOf pieces.flatten = symbols.map CostSymbol.read := by
  induction written with
  | nil => simp [symbolsOf]
  | @cons symbol piece symbols pieces one others ih =>
    rw [List.isChain_cons] at apart
    rw [List.flatten_cons, one.symbolsOf_append, ih apart.2, List.map_cons]
    -- A number ends here because what follows it is written as no number.
    intro number c first
    by_contra digit
    obtain ⟨next, second, follows⟩ :=
      isDigit_flatten_head others first (Bool.not_eq_false _ ▸ digit)
    exact apart.1 next second ⟨number, follows⟩

namespace Spelling

variable {costSymbols : List CostSymbol} (s : Spelling costSymbols)

theorem symbols_text : symbols s.text = costSymbols.map CostSymbol.read := by
  rw [symbols, text, String.toList_ofList, symbolsOf_flatten s.written s.apart]

theorem text_eq_empty : s.text = "" ↔ costSymbols = [] := by
  constructor
  next =>
    intro empty
    have read := s.symbols_text
    rw [empty] at read
    simpa [symbols, symbolsOf] using read.symm
  next =>
    rintro rfl
    rw [text, List.forall₂_nil_left_iff.1 s.written]
    rfl

end Spelling

def CostSymbol.braced : CostSymbol → List Char
  | plain p => '{' :: (p.low ++ ['}'])
  | hybrid p q => '{' :: (p.low ++ '/' :: q.low ++ ['}'])

theorem CostSymbol.written_braced (symbol : CostSymbol) : Written symbol symbol.braced := by
  cases symbol with
  | plain p => exact .braced p.map_toLower_low
  | hybrid p q => exact .hybrid p.map_toLower_low q.map_toLower_low

theorem CostSymbol.not_isNumber_braced (symbol : CostSymbol) : ¬ IsNumber symbol.braced := by
  intro number
  have opening : '{' ∈ symbol.braced := by cases symbol <;> exact List.mem_cons_self
  exact absurd (number _ opening) (by decide)

/-- Every list of symbols has a spelling. -/
def Spelling.braced (symbols : List CostSymbol) : Spelling symbols where
  pieces := symbols.map CostSymbol.braced
  written := List.forall₂_map_right_iff.2 (List.forall₂_same.2 fun c _ => c.written_braced)
  apart := by
    apply List.Pairwise.isChain
    rw [List.pairwise_map]
    exact List.pairwise_of_forall fun first _ both => first.not_isNumber_braced both.1

/-! ## Costs up to the order of symbols -/

/-- Neither a total nor containment tells one cost from the other. -/
def Alike (a b : String) : Prop :=
  total (some a) = total (some b) ∧
  ∀ other : Option String, contains (some a) other = contains (some b) other ∧
    contains other (some a) = contains other (some b)

theorem pipCount_of_perm {a b : String} (same : (symbols a).Perm (symbols b)) (kind : String) :
    pipCount a kind = pipCount b kind := by
  have pipsSame : (pips a).Perm (pips b) := (same.map pip).filter _
  have amounts : amount (pips a) kind = amount (pips b) kind :=
    ((pipsSame.filter _).map _).sum_eq
  rw [pipCount, pipCount, countPips_eq, countPips_eq, amounts]

theorem alike_of_perm {a b : String} (same : (symbols a).Perm (symbols b))
    (empty : a = "" ↔ b = "") : Alike a b := by
  have worths : worth (pips a) = worth (pips b) := by
    rw [worth_pips, worth_pips]
    exact (same.map symbolValue).sum_eq
  refine ⟨by rw [total_eq, total_eq, worths], fun other => ⟨?_, ?_⟩⟩
  all_goals
    rw [Bool.eq_iff_iff, contains_iff_getD, contains_iff_getD]
    simp only [Option.getD_some, Covers, pipCount_of_perm same, Ne, empty]

theorem spellings_alike {first second : List CostSymbol} (same : first.Perm second)
    (s : Spelling first) (t : Spelling second) :
    symbols s.text = first.map CostSymbol.read ∧ Alike s.text t.text ∧
    ∀ a b : String, (symbols a).Perm (symbols b) → (a = "" ↔ b = "") → Alike a b := by
  refine ⟨s.symbols_text, alike_of_perm ?_ ?_, fun a b => alike_of_perm⟩
  next =>
    rw [s.symbols_text, t.symbols_text]
    exact same.map CostSymbol.read
  next =>
    rw [s.text_eq_empty, t.text_eq_empty]
    constructor
    next => exact fun none => List.perm_nil.1 (none ▸ same.symm)
    next => exact fun none => List.perm_nil.1 (none ▸ same)

theorem spellings_alike_hybrid : symbols "10W{2/U}" = ["10", "w", "2/u"] ∧
    Alike "10W{2/U}" "{u/2}{10}{w}" := by
  let ten := CostSymbol.plain (.digits ['1', '0'] (by simp) (by simp))
  let white := CostSymbol.plain (.letter 'W' (by decide))
  let two := Part.digits ['2'] (by simp) (by simp)
  let blue := Part.letter 'u' (by decide)
  let s : Spelling [ten, white, .hybrid blue two] :=
    { pieces := [['1', '0'], ['W'], ['{', '2', '/', 'U', '}']]
      written := .cons (.bare rfl) (.cons (.bare rfl) (.cons
        (@Written.swapped blue two ['U'] ['2'] (by decide) rfl) .nil))
      apart := by simp [IsNumber] }
  have moved : [ten, white, .hybrid blue two].Perm [.hybrid blue two, ten, white] :=
    @List.perm_append_comm _ [ten, white] _
  have alike := spellings_alike moved s (.braced [.hybrid blue two, ten, white])
  have read : joinHalves "u" "2" = "2/u" := by decide
  exact ⟨alike.1.trans (congrArg (["10", "w", ·]) read), alike.2.1⟩

end CardCatalog.Mana
