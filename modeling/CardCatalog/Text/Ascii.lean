/-!
Comparing texts without regard to the case of ASCII letters. No other letter is folded.
-/

set_option autoImplicit false

namespace CardCatalog.Text

/-- The text with its ASCII capitals made small. -/
def fold (s : String) : String :=
  String.ofList (s.toList.map Char.toLower)

/-- Equality up to the case of ASCII letters. -/
def sameFolded (a b : String) : Bool :=
  fold a == fold b

@[simp]
theorem toList_fold (s : String) : (fold s).toList = s.toList.map Char.toLower := by
  simp [fold]

theorem sameFolded_iff (a b : String) : sameFolded a b = true ↔ fold a = fold b := by
  simp [sameFolded]

end CardCatalog.Text
