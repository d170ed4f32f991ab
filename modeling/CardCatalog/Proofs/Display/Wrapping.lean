import CardCatalog.Proofs.Display.Column
import CardCatalog.Proofs.Text.Words

/-!
Words set in lines. Lines are filled one word after the other, and a word that is too wide for a
line is broken. Main statement: nothing is lost, every line fits, and a line ends only where the
next word does not fit behind it or within a word that is too wide.
-/

set_option autoImplicit false

namespace CardCatalog.Display

open Text

/-! ## Breaking a word -/

/-- A word that is cut into full lines and a rest. -/
inductive Breaks (limit : Nat) : List Char → List (List Char) → List Char → Prop where
  | whole {word : List Char} (fits : columns word ≤ limit) : Breaks limit word [] word
  | cut {piece word rest : List Char} {full : List (List Char)} (nonempty : piece ≠ [])
      (wide : limit < columns (piece ++ word))
      (fits : columns piece ≤ limit ∨ ∃ c, piece = [c] ∧ limit < charWidth c) :
      Breaks limit word full rest → Breaks limit (piece ++ word) (piece :: full) rest

theorem breaks_breakWord (limit : Nat) {word : List Char} (plain : Plain word) :
    Breaks limit word (breakWord limit word).1 (breakWord limit word).2 := by
  fun_induction breakWord limit word with
  | case1 => exact .whole (Nat.zero_le limit)
  | case2 c rest wide count next ih =>
    have front := columns_take_fitting (Nat.zero_le limit) (c :: rest)
    rw [textWidth_eq_columns plain] at wide
    have cut : (c :: rest).take count ≠ [] := by simp [count]
    have fits : columns ((c :: rest).take count) ≤ limit ∨
        ∃ d, (c :: rest).take count = [d] ∧ limit < charWidth d := by
      by_cases none : fitting limit 0 (c :: rest) = 0
      next =>
        right
        refine ⟨c, by simp [count, none], ?_⟩
        simpa [fitting] using none
      next =>
        left
        have same : count = fitting limit 0 (c :: rest) := by omega
        rwa [same, ← Nat.zero_add (columns _)]
    have broken := Breaks.cut cut (by rwa [List.take_append_drop]) fits
      (ih (plain.of_subset (List.drop_subset ..)))
    rwa [List.take_append_drop] at broken
  | case3 c rest narrow =>
    rw [textWidth_eq_columns plain] at narrow
    exact .whole (Nat.not_lt.1 narrow)

section

variable {limit : Nat} {word rest : List Char} {full : List (List Char)}

theorem Breaks.flatten_append (breaks : Breaks limit word full rest) :
    full.flatten ++ rest = word := by
  induction breaks with
  | whole => rfl
  | cut _ _ _ _ ih => rw [List.flatten_cons, List.append_assoc, ih]

theorem Breaks.plain_rest (breaks : Breaks limit word full rest) (plain : Plain word) :
    Plain rest := by
  rw [← breaks.flatten_append] at plain
  exact (plain_append.1 plain).2

theorem Breaks.rest_le (breaks : Breaks limit word full rest) : columns rest ≤ limit := by
  induction breaks with
  | whole fits => exact fits
  | cut _ _ _ _ ih => exact ih

theorem Breaks.ne_nil (breaks : Breaks limit word full rest) (wide : limit < columns word) :
    full ≠ [] := by
  cases breaks with
  | whole fits => omega
  | cut => simp

theorem Breaks.of_mem (breaks : Breaks limit word full rest) {piece : List Char}
    (member : piece ∈ full) :
    piece ≠ [] ∧ (columns piece ≤ limit ∨ ∃ c, piece = [c] ∧ limit < charWidth c) := by
  induction breaks with
  | whole => simp at member
  | cut nonempty _ fits _ ih =>
    rcases List.mem_cons.1 member with rfl | member
    next => exact ⟨nonempty, fits⟩
    next => exact ih member

/-- Nothing is left only of a word that ends with a character wider than a line. -/
theorem Breaks.last_wide {front : List (List Char)} {last : List Char}
    (breaks : Breaks limit word full rest) (none : rest = []) (split : full = front ++ [last]) :
    limit < columns last := by
  induction breaks generalizing front with
  | whole => simp at split
  | @cut piece word rest full nonempty wide fits more ih =>
    cases front with
    | cons first front =>
      cases split
      exact ih none rfl
    | nil =>
      cases split
      cases more
      rw [none, List.append_nil] at wide
      exact wide

end

/-! ## Setting words after a line -/

/-- The lines of words that are set after a line that has been begun. -/
inductive Wraps (limit : Nat) : List Char → List (List Char) → List (List Char) → Prop where
  | done (line : List Char) : Wraps limit line [] (flush line)
  | first {word : List Char} {words lines : List (List Char)} (fits : columns word ≤ limit) :
      Wraps limit word words lines → Wraps limit [] (word :: words) lines
  | next {line word : List Char} {words lines : List (List Char)} (begun : line ≠ [])
      (fits : columns word ≤ limit) (apart : limit < columns line + 1 + columns word) :
      Wraps limit word words lines → Wraps limit line (word :: words) (line :: lines)
  | join {line word : List Char} {words lines : List (List Char)} (begun : line ≠ [])
      (room : columns line + 1 + columns word ≤ limit) :
      Wraps limit (line ++ ' ' :: word) words lines → Wraps limit line (word :: words) lines
  | broken {line word rest : List Char} {words full lines : List (List Char)}
      (wide : limit < columns word) (breaks : Breaks limit word full rest) :
      Wraps limit rest words lines → Wraps limit line (word :: words) (flush line ++ full ++ lines)

theorem breakWord_of_le {limit : Nat} {word : List Char} (fits : textWidth word ≤ limit) :
    breakWord limit word = ([], word) := by
  cases word with
  | nil => rw [breakWord]
  | cons c rest => rw [breakWord, if_neg (Nat.not_lt.2 fits)]

theorem wrapWords_whole {limit : Nat} {line word : List Char} {words : List (List Char)}
    (nonempty : word ≠ []) (fits : textWidth word ≤ limit) :
    wrapWords limit line (word :: words) =
      if line = [] then wrapWords limit word words
      else if limit < textWidth line + 1 + textWidth word then
        line :: wrapWords limit word words
      else wrapWords limit (line ++ ' ' :: word) words := by
  simp only [wrapWords, breakWord_of_le fits, if_true, if_neg nonempty, List.nil_append]

theorem wrapWords_broken {limit : Nat} {line word : List Char} {words : List (List Char)}
    (broken : (breakWord limit word).1 ≠ []) :
    wrapWords limit line (word :: words) =
      flush line ++ (breakWord limit word).1 ++ wrapWords limit (breakWord limit word).2 words := by
  simp only [wrapWords, if_neg broken, if_true]
  split_ifs with none
  next => rw [none]
  next => rfl

theorem wraps_wrapWords (limit : Nat) {line : List Char} {words : List (List Char)}
    (plain : Plain line) (plainWords : ∀ word ∈ words, Plain word)
    (areWords : ∀ word ∈ words, IsWord word) :
    Wraps limit line words (wrapWords limit line words) := by
  induction words generalizing line with
  | nil => exact .done line
  | cons word words ih =>
    have plainWord := plainWords word List.mem_cons_self
    have others {line : List Char} (plain : Plain line) :
        Wraps limit line words (wrapWords limit line words) := by
      apply ih plain
      next => exact fun w member => plainWords w (List.mem_cons_of_mem word member)
      next => exact fun w member => areWords w (List.mem_cons_of_mem word member)
    by_cases wide : limit < columns word
    next =>
      have breaks := breaks_breakWord limit plainWord
      rw [wrapWords_broken (breaks.ne_nil wide)]
      exact .broken wide breaks (others (breaks.plain_rest plainWord))
    next =>
      have width := textWidth_eq_columns plainWord
      have fits : columns word ≤ limit := Nat.not_lt.1 wide
      rw [wrapWords_whole (areWords word List.mem_cons_self).nonempty (by rwa [width]), width,
        textWidth_eq_columns plain]
      by_cases begun : line = []
      next =>
        rw [if_pos begun, begun]
        exact .first fits (others plainWord)
      next =>
        rw [if_neg begun]
        split_ifs with apart
        next => exact .next begun fits apart (others plainWord)
        next =>
          have joined : Plain (line ++ ' ' :: word) := by
            rw [plain_append, plain_cons]
            exact ⟨plain, rfl, plainWord⟩
          exact .join begun (Nat.not_lt.1 apart) (others joined)

/-! ## The lines -/

theorem flatten_flush (line : List Char) : (flush line).flatten = line := by
  by_cases none : line = [] <;> simp [flush, none]

theorem mem_flush {line l : List Char} : l ∈ flush line ↔ line ≠ [] ∧ l = line := by
  by_cases none : line = [] <;> simp [flush, none]

structure IsLine (limit : Nat) (line : List Char) : Prop where
  nonempty : line ≠ []
  plain : Plain line
  fits : columns line ≤ limit ∨ ∃ c, line = [c] ∧ limit < charWidth c
  starts : ∀ c ∈ line.head?, isBlank c = false
  stops : ∀ c ∈ line.getLast?, isBlank c = false

theorem IsLine.of_solid {limit : Nat} {line : List Char} (nonempty : line ≠ [])
    (plain : Plain line) (solid : Solid line)
    (fits : columns line ≤ limit ∨ ∃ c, line = [c] ∧ limit < charWidth c) :
    IsLine limit line where
  nonempty := nonempty
  plain := plain
  fits := fits
  starts c member := solid c (List.mem_of_mem_head? member)
  stops c member := solid c (List.mem_of_mem_getLast? member)

theorem IsLine.of_isWord {limit : Nat} {word : List Char} (isWord : IsWord word)
    (plain : Plain word) (fits : columns word ≤ limit) : IsLine limit word :=
  .of_solid isWord.nonempty plain isWord.solid (.inl fits)

theorem IsLine.join {limit : Nat} {line word : List Char} (begun : IsLine limit line)
    (room : columns line + 1 + columns word ≤ limit) (isWord : IsWord word)
    (plain : Plain word) : IsLine limit (line ++ ' ' :: word) where
  nonempty := by simp
  plain := by
    rw [plain_append, plain_cons]
    exact ⟨begun.plain, rfl, plain⟩
  fits := by
    have blank : charWidth ' ' = 1 := rfl
    left
    rw [columns_append, columns_cons, blank]
    omega
  starts c member := by
    rw [List.head?_append_of_ne_nil _ begun.nonempty] at member
    exact begun.starts c member
  stops c member := by
    rw [List.getLast?_append_of_ne_nil _ (List.cons_ne_nil _ _),
      List.getLast?_cons_of_ne_nil isWord.nonempty] at member
    exact isWord.solid c (List.mem_of_mem_getLast? member)

section

variable {limit : Nat} {line : List Char} {words lines : List (List Char)}

theorem Wraps.isLine (wraps : Wraps limit line words lines) (begun : line ≠ [] → IsLine limit line)
    (areWords : ∀ word ∈ words, IsWord word) (plain : ∀ word ∈ words, Plain word) :
    ∀ l ∈ lines, IsLine limit l := by
  induction wraps with
  | done line =>
    intro l member
    obtain ⟨nonempty, rfl⟩ := mem_flush.1 member
    exact begun nonempty
  | first fits _ ih =>
    rw [List.forall_mem_cons] at areWords plain
    exact ih (fun _ => .of_isWord areWords.1 plain.1 fits) areWords.2 plain.2
  | next nonempty fits _ _ ih =>
    rw [List.forall_mem_cons] at areWords plain
    have others := ih (fun _ => .of_isWord areWords.1 plain.1 fits) areWords.2 plain.2
    exact List.forall_mem_cons.2 ⟨begun nonempty, others⟩
  | join nonempty room _ ih =>
    rw [List.forall_mem_cons] at areWords plain
    exact ih (fun _ => (begun nonempty).join room areWords.1 plain.1) areWords.2 plain.2
  | @broken line word rest words full lines wide breaks _ ih =>
    rw [List.forall_mem_cons] at areWords plain
    have solid := areWords.1.solid
    have clean := plain.1
    rw [← breaks.flatten_append] at solid clean
    intro l member
    rw [List.append_assoc, List.mem_append, List.mem_append] at member
    obtain member | member | member := member
    next =>
      obtain ⟨nonempty, rfl⟩ := mem_flush.1 member
      exact begun nonempty
    next =>
      have inside : l ⊆ full.flatten ++ rest := fun c within =>
        List.mem_append_left _ (List.mem_flatten.2 ⟨l, member, within⟩)
      obtain ⟨nonempty, fits⟩ := breaks.of_mem member
      exact .of_solid nonempty (clean.of_subset inside) (fun c within => solid c (inside within))
        fits
    next =>
      have inside : rest ⊆ full.flatten ++ rest := List.subset_append_right ..
      apply ih _ areWords.2 plain.2 l member
      intro nonempty
      exact .of_solid nonempty (clean.of_subset inside) (fun c within => solid c (inside within))
        (.inl breaks.rest_le)

theorem Wraps.visible_eq (wraps : Wraps limit line words lines) :
    visible lines.flatten = visible line ++ visible words.flatten := by
  induction wraps with
  | done line => simp [flatten_flush]
  | first _ _ ih => simp [ih]
  | next _ _ _ _ ih => simp [ih]
  | @join line word words lines _ _ _ ih =>
    rw [ih, visible_append, visible_cons_blank rfl, List.flatten_cons, visible_append,
      List.append_assoc]
  | broken _ breaks _ ih => simp [ih, flatten_flush, ← breaks.flatten_append]

/-! ## Where lines end -/

/-- Where a line may end, after the characters `taken` of the words: before a word, which does not
fit behind the line unless it is too wide for any, or within a word that is too wide. -/
inductive LineEnd (limit : Nat) (words : List (List Char)) (line taken : List Char) : Prop where
  | before (done rest : List (List Char)) (word : List Char) (split : words = done ++ word :: rest)
      (here : taken = done.flatten)
      (full : columns word ≤ limit → limit < columns line + 1 + columns word)
  | within (done rest : List (List Char)) (front back : List Char)
      (split : words = done ++ (front ++ back) :: rest) (here : taken = done.flatten ++ front)
      (proper : front ≠ [] ∧ back ≠ []) (wide : limit < columns (front ++ back))

theorem LineEnd.cons {taken : List Char} (ends : LineEnd limit words line taken)
    (word : List Char) : LineEnd limit (word :: words) line (word ++ taken) := by
  cases ends with
  | before done rest next split here full =>
    refine .before (word :: done) rest next (congrArg (word :: ·) split) ?_ full
    rw [here, List.flatten_cons]
  | within done rest front back split here proper wide =>
    refine .within (word :: done) rest front back (congrArg (word :: ·) split) ?_ proper wide
    rw [here, List.flatten_cons, List.append_assoc]

section

variable {word rest : List Char} {full : List (List Char)}

theorem Breaks.solid (breaks : Breaks limit word full rest) (solid : Solid word) :
    Solid full.flatten ∧ Solid rest := by
  rwa [← breaks.flatten_append, solid_append] at solid

theorem Breaks.lineEnd (breaks : Breaks limit word full rest) (wide : limit < columns word)
    {before after : List (List Char)} {piece : List Char} (split : full = before ++ piece :: after)
    (more : after = [] → rest = [] → words ≠ []) :
    LineEnd limit (word :: words) piece (before ++ [piece]).flatten := by
  have nonempty : ∀ p ∈ full, p ≠ [] := fun p member => (breaks.of_mem member).1
  have whole : (before ++ [piece]).flatten ++ (after.flatten ++ rest) = word := by
    rw [← List.append_assoc, ← List.flatten_append, ← List.append_cons, ← split]
    exact breaks.flatten_append
  -- If the piece ends the word, it is itself wider than a line, and another word follows.
  by_cases none : after.flatten ++ rest = []
  next =>
    obtain ⟨noAfter, noRest⟩ := List.append_eq_nil_iff.1 none
    have last : after = [] := by
      apply List.eq_nil_iff_forall_not_mem.2
      intro p member
      exact nonempty p (by simp [split, member]) (List.flatten_eq_nil_iff.1 noAfter p member)
    obtain ⟨next, others, rfl⟩ := List.exists_cons_of_ne_nil (more last noRest)
    have overfull := breaks.last_wide noRest (by rw [split, last])
    rw [none, List.append_nil] at whole
    exact .before [word] others next rfl (by simpa using whole) fun _ => by omega
  next =>
    have some : (before ++ [piece]).flatten ≠ [] := by
      simp [nonempty piece (by simp [split])]
    rw [← whole] at wide ⊢
    exact .within [] words _ _ rfl rfl ⟨some, none⟩ wide

theorem Breaks.exists_lineEnd (breaks : Breaks limit word full rest) (wide : limit < columns word)
    (solid : Solid word) {before after : List (List Char)} {l : List Char}
    (split : flush line ++ full = before ++ l :: after)
    (more : after = [] → rest = [] → words ≠ []) :
    ∃ taken, visible (before ++ [l]).flatten = visible line ++ taken ∧
      LineEnd limit (word :: words) l taken := by
  have inside {before : List (List Char)} (split : full = before ++ l :: after) :
      visible (before ++ [l]).flatten = (before ++ [l]).flatten := by
    apply Solid.visible_eq
    intro c member
    apply (breaks.solid solid).1 c
    rw [split, List.append_cons, List.flatten_append]
    exact List.mem_append_left _ member
  by_cases none : line = []
  next =>
    subst none
    have split : full = before ++ l :: after := split
    exact ⟨_, inside split, breaks.lineEnd wide split more⟩
  next =>
    rw [flush, if_neg none, List.singleton_append] at split
    cases before with
    | nil =>
      -- The line that had been begun ends before the word, which fits behind no line.
      cases split
      refine ⟨[], by simp, .before [] words word rfl rfl fun fits => ?_⟩
      omega
    | cons first before =>
      cases split
      refine ⟨_, ?_, breaks.lineEnd wide rfl more⟩
      rw [List.cons_append, List.flatten_cons, visible_append, inside rfl]

end

theorem eq_append_cons_cons {α : Type} {xs ys before after : List α} {a b : α}
    (split : xs ++ ys = before ++ a :: b :: after) :
    (∃ more, xs = before ++ a :: more ∧ (more = [] → ys ≠ [])) ∨
      ∃ more, before = xs ++ more ∧ ys = more ++ a :: b :: after := by
  obtain ⟨more, first, second⟩ | ⟨more, first, second⟩ := List.append_eq_append_iff.1 split
  next => exact .inr ⟨more, first, second⟩
  next =>
    cases more with
    | nil => exact .inr ⟨[], by simpa using first.symm, by simpa using second.symm⟩
    | cons c more =>
      rw [List.cons_append, List.cons.injEq] at second
      obtain ⟨rfl, rest⟩ := second
      refine .inl ⟨more, first, ?_⟩
      rintro rfl rfl
      cases rest

theorem Wraps.lineEnd (wraps : Wraps limit line words lines)
    (areWords : ∀ word ∈ words, IsWord word)
    {before after : List (List Char)} {l next : List Char}
    (split : lines = before ++ l :: next :: after) :
    ∃ taken, visible (before ++ [l]).flatten = visible line ++ taken ∧
      LineEnd limit words l taken := by
  induction wraps generalizing before after l next with
  | done line =>
    have short : (flush line).length ≤ 1 := by
      unfold flush
      split_ifs <;> simp
    rw [split, List.length_append, List.length_cons, List.length_cons] at short
    omega
  | @first word words lines fits _ ih =>
    rw [List.forall_mem_cons] at areWords
    obtain ⟨taken, here, ends⟩ := ih areWords.2 split
    refine ⟨word ++ taken, ?_, ends.cons word⟩
    rw [here, areWords.1.solid.visible_eq, visible_nil, List.nil_append]
  | @next line word words lines begun fits apart _ ih =>
    rw [List.forall_mem_cons] at areWords
    cases before with
    | nil =>
      cases split
      exact ⟨[], by simp, .before [] words word rfl rfl fun _ => apart⟩
    | cons first before =>
      cases split
      obtain ⟨taken, here, ends⟩ := ih areWords.2 rfl
      refine ⟨word ++ taken, ?_, ends.cons word⟩
      rw [List.cons_append, List.flatten_cons, visible_append, here,
        areWords.1.solid.visible_eq]
  | @join line word words lines begun room _ ih =>
    rw [List.forall_mem_cons] at areWords
    obtain ⟨taken, here, ends⟩ := ih areWords.2 split
    refine ⟨word ++ taken, ?_, ends.cons word⟩
    rw [here, visible_append, visible_cons_blank rfl, areWords.1.solid.visible_eq,
      List.append_assoc]
  | @broken line word rest words full lines wide breaks wraps ih =>
    rw [List.forall_mem_cons] at areWords
    have solid := areWords.1.solid
    -- The line ends with a piece of the broken word, or after all of them.
    obtain ⟨more, within, later⟩ | ⟨more, rfl, after⟩ := eq_append_cons_cons split
    next =>
      apply breaks.exists_lineEnd wide solid within
      rintro last rfl rfl
      cases wraps
      exact later last rfl
    next =>
      obtain ⟨taken, here, ends⟩ := ih areWords.2 after
      refine ⟨word ++ taken, ?_, ends.cons word⟩
      have pieces := breaks.solid solid
      simp only [List.append_assoc, List.flatten_append, flatten_flush, visible_append] at here ⊢
      rw [here, pieces.1.visible_eq, pieces.2.visible_eq, ← breaks.flatten_append,
        List.append_assoc]

end

/-! ## Paragraphs -/

/-- A text without control characters but for white space. -/
def Readable (text : List Char) : Prop :=
  ∀ c ∈ text, isControl c = true → isBlank c = true

instance (text : List Char) : Decidable (Readable text) :=
  List.decidableBAll (fun c => isControl c = true → isBlank c = true) text

theorem plain_of_mem_words {text : List Char} (readable : Readable text) :
    ∀ word ∈ words text, Plain word := by
  intro word member c inside
  have solid := (isWord_of_mem_words member).solid c inside
  by_contra control
  have blank := readable c (mem_of_mem_words member inside) (by simpa using control)
  rw [solid] at blank
  cases blank

theorem wraps_wrap {limit : Nat} {text : List Char} (room : limit ≠ 0)
    (readable : Readable text) : Wraps limit [] (words text) (wrap limit text) := by
  rw [wrap, if_neg room]
  exact wraps_wrapWords limit plain_nil (plain_of_mem_words readable)
    fun _ member => isWord_of_mem_words member

theorem isLine_of_mem_wrap {limit : Nat} {text line : List Char} (readable : Readable text)
    (member : line ∈ wrap limit text) : IsLine limit line := by
  by_cases none : limit = 0
  next => simp [wrap, none] at member
  next =>
    apply (wraps_wrap none readable).isLine _ _ (plain_of_mem_words readable) line member
    next => exact fun begun => absurd rfl begun
    next => exact fun _ member => isWord_of_mem_words member

/-- Wrapping loses nothing but white space, and fills its lines. One character is wider than two
columns, which is a line of its own where it does not fit. -/
theorem wrap_greedy {limit : Nat} {text : List Char} (room : 2 ≤ limit)
    (readable : Readable text) :
    (∀ line ∈ wrap limit text, line ≠ [] ∧
      (columns line ≤ limit ∨ limit = 2 ∧ line = ['\u17d8']) ∧
      (∀ c ∈ line.head?, isBlank c = false) ∧ ∀ c ∈ line.getLast?, isBlank c = false) ∧
    visible (wrap limit text).flatten = visible text ∧
    ∀ before line next after, wrap limit text = before ++ line :: next :: after →
      LineEnd limit (words text) line (visible (before ++ [line]).flatten) := by
  have wraps : Wraps limit [] (words text) (wrap limit text) := wraps_wrap (by omega) readable
  refine ⟨fun line member => ?_, ?_, fun before line next after split => ?_⟩
  next =>
    have isLine := isLine_of_mem_wrap readable member
    refine ⟨isLine.nonempty, isLine.fits.imp_right ?_, isLine.starts, isLine.stops⟩
    rintro ⟨c, rfl, wide⟩
    obtain narrow | ⟨khmer, three⟩ := charWidth_le c
    next => omega
    next => exact ⟨by omega, by rw [khmer]⟩
  next =>
    have solid : Solid (words text).flatten :=
      solid_flatten fun _ member => (isWord_of_mem_words member).solid
    rw [wraps.visible_eq, solid.visible_eq, flatten_words, visible_nil, List.nil_append]
  next =>
    have areWords : ∀ word ∈ words text, IsWord word := fun _ member => isWord_of_mem_words member
    obtain ⟨taken, here, ends⟩ := wraps.lineEnd areWords split
    rw [visible_nil, List.nil_append] at here
    rwa [here]

theorem wrap_greedy_vigilance :
    2 ≤ 8 ∧ Readable "Flying,\tvigilance".toList ∧
    wrap 8 "Flying,\tvigilance".toList = ["Flying,".toList, "vigilanc".toList, "e".toList] ∧
    LineEnd 8 ["Flying,".toList, "vigilance".toList] "vigilanc".toList
      "Flying,vigilanc".toList := by
  have readable : Readable "Flying,\tvigilance".toList := by decide
  have lines : wrap 8 "Flying,\tvigilance".toList =
      ["Flying,".toList, "vigilanc".toList, "e".toList] := by
    cbv
  have wordsOf : words "Flying,\tvigilance".toList = ["Flying,".toList, "vigilance".toList] := by
    decide
  have ends := (wrap_greedy (by decide : 2 ≤ 8) readable).2.2 ["Flying,".toList] _ _ _ lines
  rw [wordsOf] at ends
  exact ⟨by decide, readable, lines, ends⟩

-- The Khmer sign beyyal takes three columns.
theorem wrap_ne_fitting : ¬ ∀ (limit : Nat) (text : List Char), 2 ≤ limit → Readable text →
    ∀ line ∈ wrap limit text, columns line ≤ limit := by
  intro fitting
  have readable : Readable ['\u17d8'] := by decide
  have lines : wrap 2 ['\u17d8'] = [['\u17d8']] := by decide +kernel
  have three : columns ['\u17d8'] = 3 := by decide +kernel
  have fits := fitting 2 ['\u17d8'] (by decide) readable ['\u17d8'] (by simp [lines])
  omega

end CardCatalog.Display
