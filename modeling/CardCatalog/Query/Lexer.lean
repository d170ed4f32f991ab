import CardCatalog.Query.Token

/-!
Splitting a search text into lexemes. Words are maximal runs of word characters, phrases stand
between two equal quotes without any escape, and of two signs that fit the longer one is taken.
A quote that is never closed is an illegal character of its own.
-/

set_option autoImplicit false

namespace CardCatalog.Query

def isBlank (c : Char) : Bool :=
  c == ' ' || c == '\t'

def isQuote (c : Char) : Bool :=
  c == '"' || c == '\''

/-- ASCII letters and digits and the characters of mana costs and decimal numbers. -/
def isWordChar (c : Char) : Bool :=
  c.isAlphanum || c == '.' || c == ',' || c == '{' || c == '}' || c == '/'

def byteLength (cs : List Char) : Nat :=
  cs.foldr (fun c length => c.utf8Size + length) 0

/-- The sign at the front of a text and what follows it. -/
def sign? : List Char → Option (TokenKind × List Char)
  | '>' :: '=' :: rest => some (.atLeast, rest)
  | '<' :: '=' :: rest => some (.atMost, rest)
  | '!' :: '=' :: rest => some (.differs, rest)
  | '-' :: rest => some (.not, rest)
  | '(' :: rest => some (.openParen, rest)
  | ')' :: rest => some (.closeParen, rest)
  | '!' :: rest => some (.bang, rest)
  | ':' :: rest => some (.colon, rest)
  | '=' :: rest => some (.equal, rest)
  | '>' :: rest => some (.greater, rest)
  | '<' :: rest => some (.less, rest)
  | _ => none

theorem eq_append_of_sign? {cs rest : List Char} {kind : TokenKind}
    (h : sign? cs = some (kind, rest)) : cs = kind.sign.toList ++ rest := by
  unfold sign? at h
  split at h <;> simp_all [TokenKind.sign] <;> (obtain ⟨rfl, rfl⟩ := h; rfl)

theorem length_lt_of_sign? {cs rest : List Char} {kind : TokenKind}
    (h : sign? cs = some (kind, rest)) : rest.length < cs.length := by
  unfold sign? at h
  split at h <;> grind

/-- A run of word characters; `or` in any case is the word that joins alternatives. -/
def Token.ofWord (word : List Char) (offset : Nat) : Token where
  kind := if word.map Char.toLower = ['o', 'r'] then .or else .word
  text := String.ofList word
  offset := offset

/-- The lexemes of a text whose first character stands at the byte `offset`. -/
def scan (offset : Nat) : List Char → List Lexeme
  | [] => []
  | c :: rest =>
    if isBlank c then scan (offset + 1) rest
    else if isQuote c then
      match _h : rest.dropWhile (· != c) with
      -- The quote is never closed.
      | [] => .illegal ⟨c, offset⟩ :: scan (offset + 1) rest
      | _ :: after =>
        let phrase := rest.takeWhile (· != c)
        .token ⟨.quoted, String.ofList phrase, offset⟩ ::
          scan (offset + byteLength phrase + 2) after
    else if isWordChar c then
      let word := c :: rest.takeWhile isWordChar
      .token (.ofWord word offset) ::
        scan (offset + byteLength word) (rest.dropWhile isWordChar)
    else
      match _h : sign? (c :: rest) with
      | some (kind, after) =>
        .token ⟨kind, kind.sign, offset⟩ :: scan (offset + kind.sign.utf8ByteSize) after
      | none => .illegal ⟨c, offset⟩ :: scan (offset + c.utf8Size) rest
termination_by cs => cs.length
decreasing_by
  · simp
  · simp
  · have := (List.dropWhile_suffix (l := rest) (· != c)).length_le
    simp_all
    omega
  · have := (List.dropWhile_suffix (l := rest) isWordChar).length_le
    simp
    omega
  · exact length_lt_of_sign? _h
  · simp

def lexemes (text : String) : List Lexeme :=
  scan 0 text.toList

def tokens (text : String) : List Token :=
  (lexemes text).filterMap Lexeme.token?

def illegalChars (text : String) : List IllegalChar :=
  (lexemes text).filterMap Lexeme.illegal?

/-- Reading a search text one token at a time. -/
structure TokenReader where
  rest : List Lexeme
  illegal : List IllegalChar

namespace TokenReader

def ofText (text : String) : TokenReader :=
  ⟨lexemes text, []⟩

/-- The next token, if there is one, with every character reported on the way to it. -/
def next : TokenReader → Option Token × TokenReader
  | ⟨[], seen⟩ => (none, ⟨[], seen⟩)
  | ⟨.token t :: rest, seen⟩ => (some t, ⟨rest, seen⟩)
  | ⟨.illegal i :: rest, seen⟩ => next ⟨rest, seen ++ [i]⟩
termination_by r => r.rest.length

end TokenReader

end CardCatalog.Query
