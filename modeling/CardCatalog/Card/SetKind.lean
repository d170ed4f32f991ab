/-!
The categories of sets. Core and expansion sets are the main ones, all equal; any other category
stands below them, in the order of its name.
-/

set_option autoImplicit false

namespace CardCatalog.SetKind

def isMain (kind : String) : Bool :=
  kind = "core" || kind = "expansion"

/-- The order of categories, the main ones last. -/
def order (a b : String) : Ordering :=
  match isMain a, isMain b with
  | true, false => .gt
  | false, true => .lt
  | true, true => .eq
  | false, false => compare a b

/-- The categories from the main ones down; equal ones keep their order. -/
def sortDescending (kinds : List String) : List String :=
  kinds.mergeSort fun a b => order a b != .lt

end CardCatalog.SetKind
