import Mathlib
import CardCatalog.Query.Lexer
import CardCatalog.Text.Ascii

/-!
How lexemes are read off a text. A token spans certain characters and ends before certain others;
a character that no token can start with stands alone. Main statement: the lexemes of a text are
the one way to cut it up like that.
-/

set_option autoImplicit false

namespace CardCatalog.Query

/-! ## Bytes -/

@[simp]
theorem byteLength_nil : byteLength [] = 0 :=
  rfl

@[simp]
theorem byteLength_cons (c : Char) (cs : List Char) :
    byteLength (c :: cs) = c.utf8Size + byteLength cs :=
  rfl

@[simp]
theorem byteLength_append (cs ds : List Char) :
    byteLength (cs ++ ds) = byteLength cs + byteLength ds := by
  induction cs with
  | nil => simp
  | cons c cs ih => simp [ih, Nat.add_assoc]

@[simp]
theorem byteLength_toList (s : String) : byteLength s.toList = s.utf8ByteSize := by
  have sizes (cs : List Char) : byteLength cs = (String.ofList cs).utf8ByteSize := by
    induction cs with
    | nil => rfl
    | cons c cs ih =>
      simp [String.ofList_cons, String.utf8ByteSize_append, ih]
  simpa using sizes s.toList

/-! ## Kinds of characters -/

/-- The characters that signs begin with. -/
def isSign (c : Char) : Bool :=
  c == '>' || c == '<' || c == '!' || c == '-' || c == '(' || c == ')' || c == ':' || c == '='

theorem isBlank_iff (c : Char) : isBlank c = true ↔ c = ' ' ∨ c = '\t' := by
  simp [isBlank]

theorem isQuote_iff (c : Char) : isQuote c = true ↔ c = '"' ∨ c = '\'' := by
  simp [isQuote]

theorem utf8Size_of_isBlank {c : Char} (blank : isBlank c = true) : c.utf8Size = 1 := by
  rcases (isBlank_iff c).1 blank with rfl | rfl <;> rfl

theorem utf8Size_of_isQuote {c : Char} (quote : isQuote c = true) : c.utf8Size = 1 := by
  rcases (isQuote_iff c).1 quote with rfl | rfl <;> rfl

theorem isWordChar_of_isBlank {c : Char} (blank : isBlank c = true) : isWordChar c = false := by
  rcases (isBlank_iff c).1 blank with rfl | rfl <;> rfl

theorem isWordChar_of_isQuote {c : Char} (quote : isQuote c = true) : isWordChar c = false := by
  rcases (isQuote_iff c).1 quote with rfl | rfl <;> rfl

theorem isBlank_of_isQuote {c : Char} (quote : isQuote c = true) : isBlank c = false := by
  rcases (isQuote_iff c).1 quote with rfl | rfl <;> rfl

theorem isBlank_of_isWordChar {c : Char} (word : isWordChar c = true) : isBlank c = false :=
  Bool.eq_false_iff.2 fun blank => by simp [isWordChar_of_isBlank blank] at word

theorem isQuote_of_isWordChar {c : Char} (word : isWordChar c = true) : isQuote c = false :=
  Bool.eq_false_iff.2 fun quote => by simp [isWordChar_of_isQuote quote] at word

theorem isWordChar_of_isAlpha {c : Char} (letter : c.isAlpha = true) : isWordChar c = true := by
  simp [isWordChar, Char.isAlphanum, letter]

/-- The characters of a sign are of no other kind. -/
theorem of_isSign {c : Char} (sign : isSign c = true) :
    isBlank c = false ∧ isQuote c = false ∧ isWordChar c = false := by
  simp only [isSign, Bool.or_eq_true, beq_iff_eq, or_assoc] at sign
  rcases sign with rfl | rfl | rfl | rfl | rfl | rfl | rfl | rfl <;> decide

theorem sign?_eq_none_iff {c : Char} {rest : List Char} :
    sign? (c :: rest) = none ↔ isSign c = false := by
  unfold sign?
  split <;> simp_all [isSign]

/-! ## What a lexeme is made of -/

/-- A token of the kind with the text can be written with the characters. -/
inductive Written : TokenKind → String → List Char → Prop where
  | word {text : String} (nonempty : text ≠ "") (made : ∀ c ∈ text.toList, isWordChar c = true)
      (free : Text.fold text ≠ "or") : Written .word text text.toList
  | or {text : String} (reserved : Text.fold text = "or") : Written .or text text.toList
  | quoted {text : String} (quote : Char) (isQuote : isQuote quote = true)
      (absent : quote ∉ text.toList) : Written .quoted text (quote :: (text.toList ++ [quote]))
  | sign {kind : TokenKind} (bare : kind.sign ≠ "") : Written kind kind.sign kind.sign.toList

theorem made_of_reserved {text : String} (reserved : Text.fold text = "or") :
    text ≠ "" ∧ ∀ c ∈ text.toList, isWordChar c = true := by
  have same : text.toList.map Char.toLower = ['o', 'r'] := by
    simpa [Text.fold, ← String.toList_inj] using reserved
  constructor
  next =>
    rintro rfl
    cases same
  next =>
    intro c member
    have small : c.toLower ∈ ['o', 'r'] := same ▸ List.mem_map_of_mem member
    have letter : c.toLower.isAlpha = true := by
      rcases List.mem_pair.1 small with same | same <;> rw [same] <;> rfl
    exact isWordChar_of_isAlpha (c.isAlpha_toLower_eq_isAlpha ▸ letter)

theorem Written.ne_nil {kind : TokenKind} {text : String} {piece : List Char}
    (written : Written kind text piece) : piece ≠ [] := by
  cases written with
  | word nonempty => simpa using nonempty
  | or reserved => simpa using (made_of_reserved reserved).1
  | quoted quote => simp
  | sign bare => simpa using bare

theorem Written.made {kind : TokenKind} {text : String} {piece : List Char}
    (written : Written kind text piece) (word : kind = .word ∨ kind = .or) :
    ∀ c ∈ piece, isWordChar c = true := by
  cases written with
  | word _ made _ => exact made
  | or reserved => exact (made_of_reserved reserved).2
  | quoted quote => simp at word
  | sign bare => rcases word with rfl | rfl <;> exact absurd rfl bare

theorem Written.getLast {kind : TokenKind} {text : String} {piece : List Char}
    (written : Written kind text piece) (other : kind ≠ .word ∧ kind ≠ .or) :
    ∀ c ∈ piece.getLast?, isWordChar c = false := by
  cases written with
  | word => exact absurd rfl other.1
  | or => exact absurd rfl other.2
  | quoted quote isQuote absent =>
    rw [← List.cons_append, List.getLast?_concat]
    rintro c ⟨⟩
    exact isWordChar_of_isQuote isQuote
  | sign bare => cases kind <;> simp_all [TokenKind.sign] <;> decide

/-- Whether a token of the kind that is written before the characters ends there. -/
def TokenKind.EndsBefore (kind : TokenKind) (rest : List Char) : Prop :=
  match kind with
  | .word | .or => ∀ c ∈ rest.head?, isWordChar c = false
  | .greater | .less | .bang => rest.head? ≠ some '='
  | _ => True

/-- A character before others that starts no token: a quote that is never closed, or a character
of no kind. -/
def Stray (c : Char) (rest : List Char) : Prop :=
  isQuote c = true ∧ c ∉ rest ∨
    isBlank c = false ∧ isWordChar c = false ∧ isQuote c = false ∧ isSign c = false

/-- The lexemes of characters the first of which stands at the byte `offset`. -/
inductive Lexes : Nat → List Char → List Lexeme → Prop where
  | nil (offset : Nat) : Lexes offset [] []
  | blank {offset : Nat} {c : Char} {rest : List Char} {ls : List Lexeme}
      (blank : isBlank c = true) :
      Lexes (offset + 1) rest ls → Lexes offset (c :: rest) ls
  | token {offset : Nat} {kind : TokenKind} {text : String} {piece rest : List Char}
      {ls : List Lexeme} (written : Written kind text piece) (ends : kind.EndsBefore rest) :
      Lexes (offset + byteLength piece) rest ls →
      Lexes offset (piece ++ rest) (.token ⟨kind, text, offset⟩ :: ls)
  | illegal {offset : Nat} {c : Char} {rest : List Char} {ls : List Lexeme}
      (stray : Stray c rest) :
      Lexes (offset + c.utf8Size) rest ls →
      Lexes offset (c :: rest) (.illegal ⟨c, offset⟩ :: ls)

/-! ## Reading one lexeme -/

section

variable {offset : Nat} {c : Char} {rest : List Char}

theorem scan_blank (blank : isBlank c = true) :
    scan offset (c :: rest) = scan (offset + 1) rest := by
  rw [scan, if_pos blank]

theorem scan_word {word : List Char} (nonempty : word ≠ [])
    (made : ∀ c ∈ word, isWordChar c = true) (ends : ∀ c ∈ rest.head?, isWordChar c = false) :
    scan offset (word ++ rest) =
      .token (.ofWord word offset) :: scan (offset + byteLength word) rest := by
  obtain ⟨c, cs, rfl⟩ := List.exists_cons_of_ne_nil nonempty
  have isWord : isWordChar c = true := made c List.mem_cons_self
  have others : ∀ d ∈ cs, isWordChar d = true := fun d member =>
    made d (List.mem_cons_of_mem c member)
  have stops : rest.takeWhile isWordChar = [] ∧ rest.dropWhile isWordChar = rest := by
    cases rest with
    | nil => simp
    | cons d rest => simp [ends d rfl]
  have whole : (cs ++ rest).takeWhile isWordChar = cs := by
    rw [List.takeWhile_append_of_pos others, stops.1, List.append_nil]
  have left : (cs ++ rest).dropWhile isWordChar = rest := by
    rw [List.dropWhile_append_of_pos others, stops.2]
  rw [List.cons_append, scan, if_neg (by simp [isBlank_of_isWordChar isWord]),
    if_neg (by simp [isQuote_of_isWordChar isWord]), if_pos isWord]
  simp only [whole, left]

theorem scan_quoted {quote : Char} {phrase : List Char} (isQuote : isQuote quote = true)
    (absent : quote ∉ phrase) :
    scan offset (quote :: (phrase ++ quote :: rest)) =
      .token ⟨.quoted, String.ofList phrase, offset⟩ ::
        scan (offset + byteLength phrase + 2) rest := by
  have inside : ∀ c ∈ phrase, (c != quote) = true := by
    intro c member
    simpa using fun same : c = quote => absent (same ▸ member)
  have phrase_eq : (phrase ++ quote :: rest).takeWhile (· != quote) = phrase := by
    rw [List.takeWhile_append_of_pos inside]
    simp
  have closed : (phrase ++ quote :: rest).dropWhile (· != quote) = quote :: rest := by
    rw [List.dropWhile_append_of_pos inside]
    simp
  rw [scan, if_neg (by simp [isBlank_of_isQuote isQuote]), if_pos isQuote]
  split
  next none => simp [closed] at none
  next after some =>
    rw [closed] at some
    cases some
    rw [phrase_eq]

theorem scan_unclosed (isQuote : isQuote c = true) (absent : c ∉ rest) :
    scan offset (c :: rest) = .illegal ⟨c, offset⟩ :: scan (offset + 1) rest := by
  have unclosed : rest.dropWhile (· != c) = [] := by
    rw [List.dropWhile_eq_nil_iff]
    intro d member
    simpa using fun same : d = c => absent (same ▸ member)
  rw [scan, if_neg (by simp [isBlank_of_isQuote isQuote]), if_pos isQuote]
  split
  next => rfl
  next after some =>
    rw [unclosed] at some
    cases some

theorem sign?_append {kind : TokenKind} (bare : kind.sign ≠ "") (ends : kind.EndsBefore rest) :
    sign? (kind.sign.toList ++ rest) = some (kind, rest) := by
  cases kind with
  | greater | less | bang =>
    cases rest with
    | nil => rfl
    | cons c rest =>
      have different : c ≠ '=' := by simpa [TokenKind.EndsBefore] using ends
      simp [TokenKind.sign, sign?, different]
  | word | quoted | or => exact absurd rfl bare
  | _ => rfl

theorem scan_sign {kind : TokenKind} (bare : kind.sign ≠ "") (ends : kind.EndsBefore rest) :
    scan offset (kind.sign.toList ++ rest) =
      .token ⟨kind, kind.sign, offset⟩ :: scan (offset + kind.sign.utf8ByteSize) rest := by
  have reads := sign?_append bare ends
  cases opens : kind.sign.toList ++ rest with
  | nil =>
    rw [opens] at reads
    cases reads
  | cons c cs =>
    rw [opens] at reads
    have isSign : isSign c = true := by
      by_contra other
      rw [sign?_eq_none_iff.2 (by simpa using other)] at reads
      cases reads
    obtain ⟨blank, quote, word⟩ := of_isSign isSign
    rw [scan, if_neg (by simp [blank]), if_neg (by simp [quote]), if_neg (by simp [word])]
    split
    next kind' after some =>
      rw [reads] at some
      cases some
      rfl
    next none =>
      rw [reads] at none
      cases none

theorem scan_written {kind : TokenKind} {text : String} {piece : List Char}
    (written : Written kind text piece) (ends : kind.EndsBefore rest) :
    scan offset (piece ++ rest) =
      .token ⟨kind, text, offset⟩ :: scan (offset + byteLength piece) rest := by
  cases written with
  | word nonempty made free =>
    have unreserved : text.toList.map Char.toLower ≠ ['o', 'r'] := by
      simpa [Text.fold, ← String.toList_inj] using free
    rw [scan_word (by simpa using nonempty) made ends, Token.ofWord, if_neg unreserved,
      String.ofList_toList]
  | or reserved =>
    have same : text.toList.map Char.toLower = ['o', 'r'] := by
      simpa [Text.fold, ← String.toList_inj] using reserved
    obtain ⟨nonempty, made⟩ := made_of_reserved reserved
    rw [scan_word (by simpa using nonempty) made ends, Token.ofWord, if_pos same,
      String.ofList_toList]
  | quoted quote isQuote absent =>
    have quotes : (quote :: (text.toList ++ [quote])) ++ rest =
        quote :: (text.toList ++ quote :: rest) := by simp
    have size := utf8Size_of_isQuote isQuote
    have bytes : byteLength (quote :: (text.toList ++ [quote])) = byteLength text.toList + 2 := by
      simp only [byteLength_cons, byteLength_append, byteLength_nil, size]
      omega
    rw [quotes, scan_quoted isQuote absent, bytes, String.ofList_toList, Nat.add_assoc]
  | sign bare => rw [scan_sign bare ends, byteLength_toList]

theorem scan_stray (stray : Stray c rest) :
    scan offset (c :: rest) = .illegal ⟨c, offset⟩ :: scan (offset + c.utf8Size) rest := by
  rcases stray with ⟨quote, absent⟩ | ⟨blank, word, quote, sign⟩
  next => rw [scan_unclosed quote absent, utf8Size_of_isQuote quote]
  next =>
    rw [scan, if_neg (by simp [blank]), if_neg (by simp [quote]), if_neg (by simp [word])]
    split
    next kind after some =>
      rw [sign?_eq_none_iff.2 sign] at some
      cases some
    next => rfl

end

/-! ## Reading a text -/

section

variable {offset : Nat} {rest : List Char} {ls : List Lexeme}

theorem Lexes.run {word : List Char} (nonempty : word ≠ [])
    (made : ∀ c ∈ word, isWordChar c = true) (ends : ∀ c ∈ rest.head?, isWordChar c = false)
    (others : Lexes (offset + byteLength word) rest ls) :
    Lexes offset (word ++ rest) (.token (.ofWord word offset) :: ls) := by
  have text : (String.ofList word).toList = word := String.toList_ofList
  by_cases reserved : word.map Char.toLower = ['o', 'r']
  next =>
    have written := @Written.or (String.ofList word) (by simp [Text.fold, reserved])
    rw [text] at written
    rw [Token.ofWord, if_pos reserved]
    exact .token written ends others
  next =>
    have written := @Written.word (String.ofList word)
      (by simpa [← String.toList_inj] using nonempty) (by simpa using made)
      (by simpa [Text.fold, ← String.toList_inj] using reserved)
    rw [text] at written
    rw [Token.ofWord, if_neg reserved]
    exact .token written ends others

theorem Lexes.quoted {quote : Char} {phrase : List Char} (isQuote : isQuote quote = true)
    (absent : quote ∉ phrase) (others : Lexes (offset + byteLength phrase + 2) rest ls) :
    Lexes offset (quote :: (phrase ++ quote :: rest))
      (.token ⟨.quoted, String.ofList phrase, offset⟩ :: ls) := by
  have written := @Written.quoted (String.ofList phrase) quote isQuote (by simpa using absent)
  have bytes : byteLength (quote :: (phrase ++ [quote])) = byteLength phrase + 2 := by
    simp only [byteLength_cons, byteLength_append, byteLength_nil, utf8Size_of_isQuote isQuote]
    omega
  rw [String.toList_ofList] at written
  rw [Nat.add_assoc, ← bytes] at others
  simpa using Lexes.token written trivial others

theorem ends_of_sign? {cs : List Char} {kind : TokenKind} (reads : sign? cs = some (kind, rest)) :
    kind.sign ≠ "" ∧ kind.EndsBefore rest := by
  unfold sign? at reads
  split at reads <;> cases reads
  -- Of the shorter signs the equality sign that would make them longer does not follow.
  case h_7 longer | h_10 longer | h_11 longer =>
    exact ⟨by decide, fun follows => (List.head?_eq_some_iff.1 follows).elim longer⟩
  all_goals exact ⟨by decide, trivial⟩

end

theorem lexes_scan (offset : Nat) (cs : List Char) : Lexes offset cs (scan offset cs) := by
  fun_induction scan offset cs with
  | case1 offset => exact .nil offset
  | case2 offset c rest blank ih => exact .blank blank ih
  | case3 offset c rest blank quote unclosed ih =>
    have absent : c ∉ rest := fun member => by
      simpa using List.dropWhile_eq_nil_iff.1 unclosed c member
    refine .illegal (.inl ⟨quote, absent⟩) ?_
    rwa [utf8Size_of_isQuote quote]
  | case4 offset c rest blank quote head after closed phrase ih =>
    have same : head = c := by
      have stops := List.head?_dropWhile_not (· != c) rest
      simpa [closed] using stops
    subst same
    have whole : rest = phrase ++ head :: after := by
      rw [← closed]
      exact List.takeWhile_append_dropWhile.symm
    have absent : head ∉ phrase := fun member => by
      simpa using List.mem_takeWhile_imp member
    rw [whole]
    exact .quoted quote absent ih
  | case5 offset c rest blank quote isWord run ih =>
    have made : ∀ d ∈ run, isWordChar d = true := by
      intro d member
      rcases List.mem_cons.1 member with rfl | member
      next => exact isWord
      next => exact List.mem_takeWhile_imp member
    have ends : ∀ d ∈ (rest.dropWhile isWordChar).head?, isWordChar d = false := by
      intro d member
      have stops := List.head?_dropWhile_not isWordChar rest
      rwa [Option.mem_def.1 member] at stops
    have whole : c :: rest = run ++ rest.dropWhile isWordChar := by
      simp [run, List.takeWhile_append_dropWhile]
    rw [whole]
    exact .run (by simp [run]) made ends ih
  | case6 offset c rest blank quote word kind after sign ih =>
    obtain ⟨bare, ends⟩ := ends_of_sign? sign
    rw [eq_append_of_sign? sign]
    rw [← byteLength_toList] at ih ⊢
    exact .token (.sign bare) ends ih
  | case7 offset c rest blank quote word none ih =>
    exact .illegal (.inr ⟨by simpa using blank, by simpa using word, by simpa using quote,
      sign?_eq_none_iff.1 none⟩) ih

theorem Lexes.scan_eq {offset : Nat} {cs : List Char} {ls : List Lexeme}
    (lexes : Lexes offset cs ls) : scan offset cs = ls := by
  induction lexes with
  | nil offset => rw [scan]
  | blank blank _ ih => rw [scan_blank blank, ih]
  | token written ends _ ih => rw [scan_written written ends, ih]
  | illegal stray _ ih => rw [scan_stray stray, ih]

theorem scan_eq_iff {offset : Nat} {cs : List Char} {ls : List Lexeme} :
    scan offset cs = ls ↔ Lexes offset cs ls :=
  ⟨fun scans => scans ▸ lexes_scan offset cs, Lexes.scan_eq⟩

end CardCatalog.Query
