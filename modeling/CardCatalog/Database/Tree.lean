import CardCatalog.Database.Bytes

/-!
The pages of an SQLite database file. The rows of a table are the leaves of a tree of pages, in
the order in which they were inserted; what does not fit into a leaf goes on in a chain of pages.
-/

set_option autoImplicit false

namespace CardCatalog.Database

/-- What every database file begins with. -/
def fileMark : List Nat :=
  ("SQLite format 3".toList.map Char.toNat) ++ [0]

structure File where
  bytes : ByteArray
  pageSize : Nat
  /-- The bytes of a page that are in use. -/
  usable : Nat

namespace File

def ofBytes? (bytes : ByteArray) : Option File :=
  let stated := unsigned bytes 16 2
  let pageSize := if stated = 1 then 65536 else stated
  let usable := pageSize - byte bytes 20
  if (List.range fileMark.length).map (byte bytes) = fileMark ∧ 512 ≤ pageSize ∧ 480 ≤ usable then
    some ⟨bytes, pageSize, usable⟩
  else none

/-- Where a page begins. Pages are counted from one. -/
def pageStart (f : File) (page : Nat) : Nat :=
  (page - 1) * f.pageSize

/-- The rest of a row in a chain of at most `fuel` pages. -/
def chain (f : File) : (fuel page left : Nat) → ByteArray
  | 0, _, _ => .empty
  | fuel + 1, page, left =>
    if page = 0 ∨ left = 0 then .empty
    else
      let start := f.pageStart page
      let here := min left (f.usable - 4)
      f.bytes.extract (start + 4) (start + 4 + here) ++
        f.chain fuel (unsigned f.bytes start 4) (left - here)

/-- How many bytes of a row of a size stand in its leaf. -/
def localSize (f : File) (size : Nat) : Nat :=
  let most := f.usable - 35
  if size ≤ most then size
  else
    let least := (f.usable - 12) * 32 / 255 - 23
    let fitting := least + (size - least) % (f.usable - 4)
    if fitting ≤ most then fitting else least

def record (f : File) (i : Nat) : ByteArray :=
  let (size, i) := varying f.bytes i
  -- The number of the row stands between its size and its record.
  let (_, i) := varying f.bytes i
  let here := f.localSize size
  let front := f.bytes.extract i (i + here)
  if here = size then front
  else
    front ++ f.chain (f.bytes.size / f.pageSize + 1) (unsigned f.bytes (i + here) 4) (size - here)

/-- The most levels of pages that a tree has. -/
def maxDepth : Nat := 20

/-- The records of a tree of at most `fuel` levels, in order. -/
def recordsFrom (f : File) : (fuel page : Nat) → List ByteArray
  | 0, _ => []
  | fuel + 1, page =>
    let start := f.pageStart page
    let header := if page = 1 then start + 100 else start
    let count := unsigned f.bytes (header + 3) 2
    let kind := byte f.bytes header
    -- 13 marks a leaf, and 5 a page of children whose last one stands in its header.
    if kind = 13 then
      (List.range count).map fun n => f.record (start + unsigned f.bytes (header + 8 + 2 * n) 2)
    else if kind = 5 then
      let children := (List.range count).map fun n =>
        unsigned f.bytes (start + unsigned f.bytes (header + 12 + 2 * n) 2) 4
      (children ++ [unsigned f.bytes (header + 8) 4]).flatMap (f.recordsFrom fuel)
    else []

def records (f : File) (root : Nat) : List ByteArray :=
  f.recordsFrom maxDepth root

end File

end CardCatalog.Database
