import CardCatalog.Store.Basic

/-!
What a program finds around it: the variables of its environment, and the files at their paths.
-/

set_option autoImplicit false

namespace CardCatalog

inductive FileEntry where
  | folder
  | text (s : String)
  | catalogue (s : Store)
  /-- Bytes that are neither a text nor a catalogue. -/
  | binary

structure Surroundings where
  bindings : List (String × String) := []
  file? : String → Option FileEntry := fun _ => none

end CardCatalog
