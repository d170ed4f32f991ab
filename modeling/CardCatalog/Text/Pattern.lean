/-!
Patterns with wildcards: `%` stands for any run of characters and `_` for any one character; every
other character stands for itself. A zero character ends both pattern and text.
-/

set_option autoImplicit false

namespace CardCatalog.Text

/-- Whether a text, none of whose characters is zero, fits a pattern. -/
def fits : (pattern text : List Char) → Bool
  | [], text => text = []
  | '%' :: '%' :: pattern, text => fits ('%' :: pattern) text
  | '%' :: pattern, text =>
    fits pattern text ||
      match text with
      | [] => false
      | _ :: rest => fits ('%' :: pattern) rest
  | p :: pattern, text =>
    match text with
    | [] => false
    | c :: rest => (p = '_' || p = c) && fits pattern rest
termination_by pattern text => pattern.length + text.length

/-- The text before the first zero character. -/
def untilZero (cs : List Char) : List Char :=
  cs.takeWhile (· != '\x00')

/-- Whether a text fits a pattern, case being told apart. -/
def like (text pattern : String) : Bool :=
  fits (untilZero pattern.toList) (untilZero text.toList)

end CardCatalog.Text
