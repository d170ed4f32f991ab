import Mathlib

/-!
Texts as bytes. Main statement: the order of texts, character by character, is the order of their
bytes in UTF-8.
-/

set_option autoImplicit false

namespace CardCatalog.Text

def bytes (s : String) : List UInt8 :=
  s.toUTF8.data.toList

theorem bytes_eq_flatMap (s : String) : bytes s = s.toList.flatMap String.utf8EncodeChar := by
  have whole : s.toByteArray = s.toList.utf8Encode := by
    rw [← String.toByteArray_ofList, String.ofList_toList]
  rw [bytes, String.toUTF8_eq_toByteArray, whole, List.utf8Encode, List.toList_data_toByteArray]

theorem length_le_utf8ByteSize (s : String) : s.toList.length ≤ s.utf8ByteSize := by
  have sizes (cs : List Char) : cs.length ≤ (String.ofList cs).utf8ByteSize := by
    induction cs with
    | nil => exact Nat.zero_le _
    | cons c cs ih =>
      have long := c.utf8Size_pos
      simp only [String.ofList_cons, String.utf8ByteSize_append, String.utf8ByteSize_singleton,
        List.length_cons]
      omega
  simpa using sizes s.toList

theorem ofNat_lt_ofNat {m n : Nat} (first : m < 256) (second : n < 256) :
    UInt8.ofNat m < UInt8.ofNat n ↔ m < n := by
  rw [UInt8.lt_iff_toNat_lt, UInt8.toNat_ofNat', UInt8.toNat_ofNat', Nat.mod_eq_of_lt first,
    Nat.mod_eq_of_lt second]

theorem ofNat_eq_ofNat {m n : Nat} (first : m < 256) (second : n < 256) :
    UInt8.ofNat m = UInt8.ofNat n ↔ m = n := by
  rw [← UInt8.toNat_inj, UInt8.toNat_ofNat', UInt8.toNat_ofNat', Nat.mod_eq_of_lt first,
    Nat.mod_eq_of_lt second]

-- The bytes of one character are no beginning of those of another, so what follows is of no
-- account.
theorem utf8EncodeChar_append_lt {c d : Char} (less : c < d) (as bs : List UInt8) :
    String.utf8EncodeChar c ++ as < String.utf8EncodeChar d ++ bs := by
  have code : c.val.toNat < d.val.toNat := less
  have bound : d.val.toNat < 0x110000 := by
    rcases d.valid with low | high <;> omega
  unfold String.utf8EncodeChar
  generalize c.val.toNat = m at *
  generalize d.val.toNat = n at *
  have lead (k : Nat) (small : k < 0x110000) : k / 262144 % 8 = k / 262144 :=
    Nat.mod_eq_of_lt (by omega)
  -- A character of more bytes has the greater first byte; of as many, the digits decide.
  simp only [lead m (by omega), lead n bound]
  split_ifs <;>
    simp (disch := omega) only [List.cons_append, List.nil_append, List.cons_lt_cons_iff,
      ofNat_lt_ofNat, ofNat_eq_ofNat] <;>
    omega

theorem bytes_lt_bytes {a b : String} (less : a < b) : bytes a < bytes b := by
  rw [bytes_eq_flatMap, bytes_eq_flatMap]
  rw [String.lt_iff] at less
  generalize a.toList = cs at *
  generalize b.toList = ds at *
  induction less with
  | @nil c rest =>
    obtain ⟨x, xs, code⟩ := List.exists_cons_of_ne_nil (String.utf8EncodeChar_ne_nil (c := c))
    rw [List.flatMap_nil, List.flatMap_cons, code]
    exact List.nil_lt_cons x _
  | rel less => exact utf8EncodeChar_append_lt less _ _
  | cons _ ih => exact List.append_left_lt ih

theorem bytes_le_bytes_iff {a b : String} : bytes a ≤ bytes b ↔ a ≤ b := by
  constructor
  next =>
    intro le
    by_contra other
    exact le (bytes_lt_bytes (not_le.1 other))
  next =>
    intro le
    rcases lt_or_eq_of_le le with less | rfl
    next => exact List.le_of_lt (bytes_lt_bytes less)
    next => exact List.le_refl _

theorem isLE_compare_iff {a b : String} : (compare a b).isLE = true ↔ bytes a ≤ bytes b :=
  Std.LawfulBCmp.isLE_iff_le.trans bytes_le_bytes_iff.symm

end CardCatalog.Text
