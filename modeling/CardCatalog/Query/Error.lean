import CardCatalog.Query.Token

/-!
Why a search text is no query. The lexer reports illegal characters on the side; these are the
errors that leave no query at all.
-/

set_option autoImplicit false

namespace CardCatalog.Query

inductive QueryError where
  | unexpectedToken (text : String) (offset : Nat)
  | unexpectedEnd
  | unknownKeyword (word : String)
  | unsupportedOperator (word operator : String)
  | invalidValue (keyword value : String)
  | tooDeep (limit offset : Nat)
  deriving DecidableEq, Repr

def QueryError.message : QueryError → String
  | unexpectedToken text offset =>
    "syntax error at " ++ Text.quoted text ++ " (offset " ++ toString offset ++ ")"
  | unexpectedEnd => "parse error: reached EOF while expecting data"
  | unknownKeyword word => "invalid search keyword '" ++ word ++ "'"
  | unsupportedOperator word operator =>
    "keyword '" ++ word ++ "' does not accept '" ++ operator ++ "'"
  | invalidValue keyword value =>
    "invalid value " ++ Text.quoted value ++ " for keyword '" ++ keyword ++ "'"
  | tooDeep limit offset =>
    "query nested deeper than " ++ toString limit ++ " levels (offset " ++ toString offset ++ ")"

end CardCatalog.Query
