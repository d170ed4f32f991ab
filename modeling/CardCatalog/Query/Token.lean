import CardCatalog.Text.Quoted

/-!
The words and signs of a search text. A text is a sequence of lexemes: tokens, and characters
that belong to no token, which are reported and otherwise passed over.
-/

set_option autoImplicit false

namespace CardCatalog.Query

inductive TokenKind where
  | word
  | quoted
  | or
  | not
  | openParen
  | closeParen
  | bang
  | colon
  | equal
  | greater
  | less
  | atLeast
  | atMost
  | differs
  deriving DecidableEq, Repr

namespace TokenKind

/-- The signs that compare a keyword with a value, `:` and `=` apart. -/
def isComparison : TokenKind → Bool
  | greater | less | atLeast | atMost | differs => true
  | _ => false

def isEquality : TokenKind → Bool
  | colon | equal => true
  | _ => false

/-- The text of a sign; words and phrases carry their own text. -/
def sign : TokenKind → String
  | word | quoted | or => ""
  | not => "-"
  | openParen => "("
  | closeParen => ")"
  | bang => "!"
  | colon => ":"
  | equal => "="
  | greater => ">"
  | less => "<"
  | atLeast => ">="
  | atMost => "<="
  | differs => "!="

end TokenKind

/-- A token with the byte offset at which it starts; a phrase is kept without its quotes. -/
structure Token where
  kind : TokenKind
  text : String
  offset : Nat
  deriving DecidableEq, Repr

/-- A character that belongs to no token, with its byte offset. -/
structure IllegalChar where
  char : Char
  offset : Nat
  deriving DecidableEq, Repr

def IllegalChar.message (i : IllegalChar) : String :=
  "illegal character " ++ Text.quotedChar i.char ++ " at offset " ++ toString i.offset

inductive Lexeme where
  | token (t : Token)
  | illegal (i : IllegalChar)
  deriving DecidableEq, Repr

namespace Lexeme

def token? : Lexeme → Option Token
  | token t => some t
  | illegal _ => none

def illegal? : Lexeme → Option IllegalChar
  | token _ => none
  | illegal i => some i

end Lexeme

end CardCatalog.Query
