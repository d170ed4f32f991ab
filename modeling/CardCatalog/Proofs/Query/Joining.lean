import CardCatalog.Proofs.Query.Lexing

/-!
Lexemes of texts that are put together. Main statement: if no quote of a text is left open, and
what follows it neither goes on with a word nor makes a sign longer, the lexemes of both are those
of the one and then those of the other, moved by the length of the first.
-/

set_option autoImplicit false

namespace CardCatalog.Query

def Token.shift (n : Nat) (t : Token) : Token :=
  { t with offset := t.offset + n }

def IllegalChar.shift (n : Nat) (i : IllegalChar) : IllegalChar :=
  { i with offset := i.offset + n }

def Lexeme.shift (n : Nat) : Lexeme → Lexeme
  | token t => token (t.shift n)
  | illegal i => illegal (i.shift n)

theorem Lexeme.shift_shift (m n : Nat) :
    Lexeme.shift n ∘ Lexeme.shift m = Lexeme.shift (m + n) := by
  funext l
  cases l <;> simp [Lexeme.shift, Token.shift, IllegalChar.shift, Nat.add_assoc]

theorem Lexes.shift {offset : Nat} {cs : List Char} {ls : List Lexeme} (n : Nat)
    (lexes : Lexes offset cs ls) : Lexes (offset + n) cs (ls.map (Lexeme.shift n)) := by
  induction lexes with
  | nil offset => exact .nil _
  | blank blank _ ih =>
    rw [Nat.add_right_comm] at ih
    exact .blank blank ih
  | token written ends _ ih =>
    rw [Nat.add_right_comm] at ih
    exact .token written ends ih
  | illegal stray _ ih =>
    rw [Nat.add_right_comm] at ih
    exact .illegal stray ih

theorem scan_add (offset n : Nat) (cs : List Char) :
    scan (offset + n) cs = (scan offset cs).map (Lexeme.shift n) :=
  ((lexes_scan offset cs).shift n).scan_eq

/-! ## The seam between two texts -/

/-- Whether the characters go on with no token that ends before them. -/
def Seam (more : List Char) : Prop :=
  ∀ c ∈ more.head?, isWordChar c = false ∧ c ≠ '='

theorem TokenKind.EndsBefore.append {kind : TokenKind} {rest more : List Char}
    (ends : kind.EndsBefore rest) (seam : Seam more) : kind.EndsBefore (rest ++ more) := by
  cases rest with
  | cons c rest => cases kind <;> exact ends
  | nil =>
    rw [List.nil_append]
    cases kind with
    | word | or => exact fun c member => (seam c member).1
    | greater | less | bang => exact fun follows => (seam '=' follows).2 rfl
    | _ => trivial

theorem Lexes.append {offset : Nat} {cs more : List Char} {ls ms : List Lexeme}
    (lexes : Lexes offset cs ls) (closed : ∀ i, Lexeme.illegal i ∈ ls → isQuote i.char = false)
    (seam : Seam more) (others : Lexes (offset + byteLength cs) more ms) :
    Lexes offset (cs ++ more) (ls ++ ms) := by
  induction lexes with
  | nil offset => exact others
  | blank blank _ ih =>
    rw [byteLength_cons, utf8Size_of_isBlank blank, ← Nat.add_assoc] at others
    exact .blank blank (ih closed others)
  | token written ends _ ih =>
    rw [byteLength_append, ← Nat.add_assoc] at others
    rw [List.append_assoc, List.cons_append]
    exact .token written (ends.append seam)
      (ih (fun i member => closed i (List.mem_cons_of_mem _ member)) others)
  | @illegal offset c rest ls stray _ ih =>
    rw [byteLength_cons, ← Nat.add_assoc] at others
    -- A quote that is left open could be closed by what follows.
    have unquoted : isQuote c = false := closed ⟨c, offset⟩ List.mem_cons_self
    have stands : Stray c (rest ++ more) := by
      rcases stray with ⟨quote, -⟩ | none
      next =>
        rw [quote] at unquoted
        cases unquoted
      next => exact .inr none
    exact .illegal stands (ih (fun i member => closed i (List.mem_cons_of_mem _ member)) others)

theorem scan_append {offset : Nat} {cs more : List Char}
    (closed : ∀ i, Lexeme.illegal i ∈ scan offset cs → isQuote i.char = false)
    (seam : Seam more) :
    scan offset (cs ++ more) = scan offset cs ++ scan (offset + byteLength cs) more :=
  ((lexes_scan offset cs).append closed seam (lexes_scan _ more)).scan_eq

/-! ## Tokens and illegal characters of both -/

theorem mem_illegalChars {text : String} {i : IllegalChar} :
    i ∈ illegalChars text ↔ Lexeme.illegal i ∈ lexemes text := by
  simp only [illegalChars, List.mem_filterMap]
  constructor
  next =>
    rintro ⟨l, member, is⟩
    cases l with
    | token t => cases is
    | illegal j =>
      cases is
      exact member
  next => exact fun member => ⟨_, member, rfl⟩

section

variable {s t : String}

theorem lexemes_append (closed : ∀ i ∈ illegalChars s, isQuote i.char = false)
    (seam : Seam t.toList) :
    lexemes (s ++ t) = lexemes s ++ (lexemes t).map (Lexeme.shift s.utf8ByteSize) := by
  have none_open : ∀ i, Lexeme.illegal i ∈ scan 0 s.toList → isQuote i.char = false :=
    fun i member => closed i (mem_illegalChars.2 member)
  rw [lexemes, lexemes, lexemes, String.toList_append, scan_append none_open seam,
    byteLength_toList, scan_add]

theorem tokens_shift (n : Nat) (ls : List Lexeme) :
    (ls.map (Lexeme.shift n)).filterMap Lexeme.token? =
      (ls.filterMap Lexeme.token?).map (Token.shift n) := by
  rw [List.filterMap_map, List.map_filterMap]
  exact List.filterMap_congr fun l _ => by cases l <;> rfl

theorem illegalChars_shift (n : Nat) (ls : List Lexeme) :
    (ls.map (Lexeme.shift n)).filterMap Lexeme.illegal? =
      (ls.filterMap Lexeme.illegal?).map (IllegalChar.shift n) := by
  rw [List.filterMap_map, List.map_filterMap]
  exact List.filterMap_congr fun l _ => by cases l <;> rfl

theorem lexemes_blank_append (t : String) :
    lexemes (" " ++ t) = (lexemes t).map (Lexeme.shift 1) := by
  have lexes : Lexes 0 (' ' :: t.toList) ((lexemes t).map (Lexeme.shift 1)) :=
    .blank rfl ((lexes_scan 0 t.toList).shift 1)
  rw [lexemes, String.toList_append]
  exact lexes.scan_eq

theorem lexemes_sign_append {kind : TokenKind} (bare : kind.sign ≠ "")
    (ends : kind.EndsBefore t.toList) :
    lexemes (kind.sign ++ t) =
      .token ⟨kind, kind.sign, 0⟩ :: (lexemes t).map (Lexeme.shift kind.sign.utf8ByteSize) := by
  rw [lexemes, String.toList_append, scan_sign bare ends, scan_add]
  rfl

theorem lexemes_or_append (t : String) :
    lexemes ("or " ++ t) = .token ⟨.or, "or", 0⟩ :: (lexemes t).map (Lexeme.shift 3) := by
  have written : Written .or "or" ['o', 'r'] := .or (by cbv)
  have blank : isBlank ' ' = true := rfl
  have rest : Lexes 2 (' ' :: t.toList) ((lexemes t).map (Lexeme.shift 3)) :=
    .blank blank ((lexes_scan 0 t.toList).shift 3)
  have whole : ("or " ++ t).toList = ['o', 'r'] ++ ' ' :: t.toList := by simp
  rw [lexemes, whole]
  exact (Lexes.token written (by rintro c ⟨⟩; rfl) rest).scan_eq

/-! ## Joined, negated and grouped texts -/

theorem lexemes_joined_or (closed : ∀ i ∈ illegalChars s, isQuote i.char = false) :
    lexemes (s ++ " or " ++ t) =
      lexemes s ++ .token ⟨.or, "or", s.utf8ByteSize + 1⟩ ::
        (lexemes t).map (Lexeme.shift (s.utf8ByteSize + 4)) := by
  have parts : s ++ " or " ++ t = s ++ (" " ++ ("or " ++ t)) := by
    simp [String.append_assoc, ← String.toList_inj]
  have seam : Seam (" " ++ ("or " ++ t)).toList := by
    rw [String.toList_append]
    rintro c ⟨⟩
    decide
  -- Each part is read on its own, and the offsets of the last one are moved three times.
  rw [parts, lexemes_append closed seam, lexemes_blank_append, lexemes_or_append]
  simp [Lexeme.shift_shift, Lexeme.shift, Token.shift, Nat.add_comm]

theorem lexemes_joined (closed : ∀ i ∈ illegalChars s, isQuote i.char = false) :
    lexemes (s ++ " " ++ t) =
      lexemes s ++ (lexemes t).map (Lexeme.shift (s.utf8ByteSize + 1)) := by
  have seam : Seam (" " ++ t).toList := by
    rw [String.toList_append]
    rintro c ⟨⟩
    decide
  rw [String.append_assoc, lexemes_append closed seam, lexemes_blank_append]
  simp [Lexeme.shift_shift, Nat.add_comm]

theorem lexemes_negated (s : String) :
    lexemes ("-" ++ s) = .token ⟨.not, "-", 0⟩ :: (lexemes s).map (Lexeme.shift 1) :=
  @lexemes_sign_append s .not (by decide) trivial

theorem lexemes_grouped (closed : ∀ i ∈ illegalChars s, isQuote i.char = false) :
    lexemes ("(" ++ s ++ ")") =
      .token ⟨.openParen, "(", 0⟩ :: ((lexemes s).map (Lexeme.shift 1) ++
        [.token ⟨.closeParen, ")", s.utf8ByteSize + 1⟩]) := by
  have seam : Seam ")".toList := by
    rintro c ⟨⟩
    decide
  have closing : lexemes ")" = [.token ⟨.closeParen, ")", 0⟩] := by
    cbv
  have opens : lexemes ("(" ++ (s ++ ")")) =
      .token ⟨.openParen, "(", 0⟩ :: (lexemes (s ++ ")")).map (Lexeme.shift 1) :=
    @lexemes_sign_append (s ++ ")") .openParen (by decide) trivial
  rw [String.append_assoc, opens, lexemes_append closed seam, closing]
  simp [Lexeme.shift, Token.shift]

/-! ## Their tokens and illegal characters -/

theorem tokens_joined_or (closed : ∀ i ∈ illegalChars s, isQuote i.char = false) :
    tokens (s ++ " or " ++ t) =
      tokens s ++ ⟨.or, "or", s.utf8ByteSize + 1⟩ ::
        (tokens t).map (Token.shift (s.utf8ByteSize + 4)) := by
  simp only [tokens, lexemes_joined_or closed, List.filterMap_append, List.filterMap_cons,
    Lexeme.token?, tokens_shift]

theorem illegalChars_joined_or (closed : ∀ i ∈ illegalChars s, isQuote i.char = false) :
    illegalChars (s ++ " or " ++ t) =
      illegalChars s ++ (illegalChars t).map (IllegalChar.shift (s.utf8ByteSize + 4)) := by
  simp only [illegalChars, lexemes_joined_or closed, List.filterMap_append, List.filterMap_cons,
    Lexeme.illegal?, illegalChars_shift]

theorem tokens_joined (closed : ∀ i ∈ illegalChars s, isQuote i.char = false) :
    tokens (s ++ " " ++ t) =
      tokens s ++ (tokens t).map (Token.shift (s.utf8ByteSize + 1)) := by
  simp only [tokens, lexemes_joined closed, List.filterMap_append, tokens_shift]

theorem illegalChars_joined (closed : ∀ i ∈ illegalChars s, isQuote i.char = false) :
    illegalChars (s ++ " " ++ t) =
      illegalChars s ++ (illegalChars t).map (IllegalChar.shift (s.utf8ByteSize + 1)) := by
  simp only [illegalChars, lexemes_joined closed, List.filterMap_append, illegalChars_shift]

theorem tokens_negated (s : String) :
    tokens ("-" ++ s) = ⟨.not, "-", 0⟩ :: (tokens s).map (Token.shift 1) := by
  simp only [tokens, lexemes_negated, List.filterMap_cons, Lexeme.token?, tokens_shift]

theorem illegalChars_negated (s : String) :
    illegalChars ("-" ++ s) = (illegalChars s).map (IllegalChar.shift 1) := by
  simp only [illegalChars, lexemes_negated, List.filterMap_cons, Lexeme.illegal?,
    illegalChars_shift]

theorem tokens_grouped (closed : ∀ i ∈ illegalChars s, isQuote i.char = false) :
    tokens ("(" ++ s ++ ")") =
      ⟨.openParen, "(", 0⟩ :: ((tokens s).map (Token.shift 1) ++
        [⟨.closeParen, ")", s.utf8ByteSize + 1⟩]) := by
  simp only [tokens, lexemes_grouped closed, List.filterMap_cons, List.filterMap_append,
    List.filterMap_nil, Lexeme.token?, tokens_shift]

theorem illegalChars_grouped (closed : ∀ i ∈ illegalChars s, isQuote i.char = false) :
    illegalChars ("(" ++ s ++ ")") = (illegalChars s).map (IllegalChar.shift 1) := by
  simp only [illegalChars, lexemes_grouped closed, List.filterMap_cons, List.filterMap_append,
    List.filterMap_nil, Lexeme.illegal?, illegalChars_shift, List.append_nil]

/-- A text whose quotes are all closed is read as if it stood alone when a blank and another text
follow it, and so is the other text, further on by the bytes before it. -/
theorem tokens_illegalChars_joined (closed : ∀ i ∈ illegalChars s, isQuote i.char = false) :
    tokens (s ++ " " ++ t) = tokens s ++ (tokens t).map (Token.shift (s.utf8ByteSize + 1)) ∧
    illegalChars (s ++ " " ++ t) =
      illegalChars s ++ (illegalChars t).map (IllegalChar.shift (s.utf8ByteSize + 1)) :=
  ⟨tokens_joined closed, illegalChars_joined closed⟩

end

-- The signs on both sides of the blank stay two, and the last quote is left open.
theorem tokens_illegalChars_joined_twoSigns :
    (∀ i ∈ illegalChars "é cmc>", isQuote i.char = false) ∧
    tokens ("é cmc>" ++ " " ++ "=3 'ö") =
      [⟨.word, "cmc", 3⟩, ⟨.greater, ">", 6⟩, ⟨.equal, "=", 8⟩, ⟨.word, "3", 9⟩] ∧
    illegalChars ("é cmc>" ++ " " ++ "=3 'ö") = [⟨'é', 0⟩, ⟨'\'', 11⟩, ⟨'ö', 12⟩] := by
  have tokens_s : tokens "é cmc>" = [⟨.word, "cmc", 3⟩, ⟨.greater, ">", 6⟩] := by cbv
  have illegal_s : illegalChars "é cmc>" = [⟨'é', 0⟩] := by cbv
  have tokens_t : tokens "=3 'ö" = [⟨.equal, "=", 0⟩, ⟨.word, "3", 1⟩] := by cbv
  have illegal_t : illegalChars "=3 'ö" = [⟨'\'', 3⟩, ⟨'ö', 4⟩] := by cbv
  have closed : ∀ i ∈ illegalChars "é cmc>", isQuote i.char = false := by
    rw [illegal_s]
    decide
  obtain ⟨tokens_st, illegal_st⟩ := @tokens_illegalChars_joined "é cmc>" "=3 'ö" closed
  rw [tokens_s, tokens_t] at tokens_st
  rw [illegal_s, illegal_t] at illegal_st
  exact ⟨closed, tokens_st, illegal_st⟩

end CardCatalog.Query
