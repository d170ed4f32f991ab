/-!
Reading bytes as UTF-8. What is not well formed becomes the replacement character, one for every
longest run of bytes that starts a character and for every other byte that starts none.
-/

set_option autoImplicit false

namespace CardCatalog.Text

/-- How a character of several bytes starts: its own bits, how many bytes follow, and the range
of the first of them, which excludes overlong forms and surrogates. -/
structure Lead where
  bits : Nat
  count : Nat
  low : Nat
  high : Nat

def lead? (b : Nat) : Option Lead :=
  if 0xc2 ≤ b && b ≤ 0xdf then some ⟨b - 0xc0, 1, 0x80, 0xbf⟩
  else if b = 0xe0 then some ⟨b - 0xe0, 2, 0xa0, 0xbf⟩
  else if b = 0xed then some ⟨b - 0xe0, 2, 0x80, 0x9f⟩
  else if 0xe1 ≤ b && b ≤ 0xef then some ⟨b - 0xe0, 2, 0x80, 0xbf⟩
  else if b = 0xf0 then some ⟨b - 0xf0, 3, 0x90, 0xbf⟩
  else if 0xf1 ≤ b && b ≤ 0xf3 then some ⟨b - 0xf0, 3, 0x80, 0xbf⟩
  else if b = 0xf4 then some ⟨b - 0xf0, 3, 0x80, 0x8f⟩
  else none

/-- Takes `count` following bytes, the first of them within a range; stops before a byte that
does not fit. -/
def following (bits low high : Nat) : (count : Nat) → List Nat → Option Nat × List Nat
  | 0, bytes => (some bits, bytes)
  | _ + 1, [] => (none, [])
  | count + 1, b :: rest =>
    if low ≤ b && b ≤ high then following (bits * 64 + (b - 0x80)) 0x80 0xbf count rest
    else (none, b :: rest)

theorem length_following_le (bits low high count : Nat) (bytes : List Nat) :
    (following bits low high count bytes).2.length ≤ bytes.length := by
  induction count generalizing bits low high bytes with
  | zero => simp [following]
  | succ n ih =>
    cases bytes with
    | nil => simp [following]
    | cons b rest =>
      simp only [following]
      split
      · have := ih (bits * 64 + (b - 0x80)) 0x80 0xbf rest
        simp only [List.length_cons]
        omega
      · simp

def decodeUtf8 : List Nat → List Char
  | [] => []
  | b :: rest =>
    if b < 0x80 then Char.ofNat b :: decodeUtf8 rest
    else
      match lead? b with
      | none => '\ufffd' :: decodeUtf8 rest
      | some lead =>
        let next := following lead.bits lead.low lead.high lead.count rest
        (next.1.map Char.ofNat).getD '\ufffd' :: decodeUtf8 next.2
termination_by bytes => bytes.length
decreasing_by
  · simp
  · simp
  · have := length_following_le lead.bits lead.low lead.high lead.count rest
    simp only [List.length_cons]
    omega

end CardCatalog.Text
