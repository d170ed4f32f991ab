/-!
Character classes given as ranges of code points.
-/

set_option autoImplicit false

namespace CardCatalog.Text

/-- Whether the character lies in one of the closed ranges of code points. -/
def inRanges (ranges : List (Nat × Nat)) (c : Char) : Bool :=
  ranges.any fun (first, last) => first ≤ c.toNat && c.toNat ≤ last

end CardCatalog.Text
