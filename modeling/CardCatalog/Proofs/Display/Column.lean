import CardCatalog.Display.Column
import CardCatalog.Proofs.Text.Width

/-!
Texts cut and filled to a width. Main statements: without control characters there is always room
to fill a text up, and columns side by side are as wide as their columns and gaps together.
-/

set_option autoImplicit false

namespace CardCatalog.Display

open Text

/-! ## Cutting -/

theorem columns_take_fitting {limit used : Nat} (room : used ≤ limit) (cs : List Char) :
    used + columns (cs.take (fitting limit used cs)) ≤ limit := by
  induction cs generalizing used with
  | nil => simpa [fitting] using room
  | cons c rest ih =>
    rw [fitting]
    split_ifs with fits
    next =>
      have others := ih fits
      rw [Nat.add_comm 1, List.take_succ_cons, columns_cons]
      omega
    next => simpa using room

theorem columns_truncate_le (limit : Nat) (cs : List Char) :
    columns (truncate limit cs) ≤ limit := by
  have cut := columns_take_fitting (Nat.zero_le limit) cs
  rwa [Nat.zero_add] at cut

theorem plain_truncate {cs : List Char} (plain : Plain cs) (limit : Nat) :
    Plain (truncate limit cs) :=
  plain.of_subset (List.take_subset ..)

/-! ## Filling -/

/-- Exactly `width` columns without control characters. -/
structure Fills (width : Nat) (line : List Char) : Prop where
  plain : Plain line
  columns_eq : columns line = width

theorem Fills.append {first second : Nat} {front back : List Char} (left : Fills first front)
    (right : Fills second back) : Fills (first + second) (front ++ back) where
  plain := plain_append.2 ⟨left.plain, right.plain⟩
  columns_eq := by rw [columns_append, left.columns_eq, right.columns_eq]

theorem fills_replicate {c : Char} (plain : isControl c = false) (single : charWidth c = 1)
    (n : Nat) : Fills n (List.replicate n c) where
  plain := by
    intro d member
    rw [List.eq_of_mem_replicate member]
    exact plain
  columns_eq := by rw [columns_replicate, single, Nat.mul_one]

theorem fills_blanks (n : Nat) : Fills n (blanks n) :=
  fills_replicate rfl rfl n

theorem fills_truncate {cs : List Char} (plain : Plain cs) (limit : Nat) :
    Fills (columns (truncate limit cs)) (truncate limit cs) :=
  ⟨plain_truncate plain limit, rfl⟩

section

variable {limit : Nat} {cs : List Char}

theorem exists_pad (plain : Plain cs) (limit : Nat) :
    ∃ row, pad? limit cs = some row ∧ Fills limit row := by
  have cut := fills_truncate plain limit
  have room := columns_truncate_le limit cs
  have filled := cut.append (fills_blanks (limit - columns (truncate limit cs)))
  rw [Nat.add_sub_cancel' room] at filled
  refine ⟨_, ?_, filled⟩
  simp only [pad?, textWidth_eq_columns cut.plain, if_pos room]

theorem exists_padLeft (plain : Plain cs) (limit : Nat) :
    ∃ row, padLeft? limit cs = some row ∧ Fills limit row := by
  have cut := fills_truncate plain limit
  have room := columns_truncate_le limit cs
  have filled := (fills_blanks (limit - columns (truncate limit cs))).append cut
  rw [Nat.sub_add_cancel room] at filled
  refine ⟨_, ?_, filled⟩
  simp only [padLeft?, textWidth_eq_columns cut.plain, if_pos room]

theorem exists_spread {left right : List Char} (plainLeft : Plain left) (plainRight : Plain right)
    (limit : Nat) : ∃ row, spread? limit left right = some row ∧ Fills limit row := by
  have cut := fills_truncate plainRight limit
  have fits := columns_truncate_le limit right
  simp only [spread?, textWidth_eq_columns cut.plain, if_pos fits]
  generalize rooms : limit - columns (truncate limit right) = room
  generalize lefts : (if truncate limit right = [] then room else room - 1) = leftRoom
  have within : leftRoom ≤ room := by
    rw [← lefts]
    split_ifs <;> omega
  obtain ⟨row, padded, filled⟩ := exists_pad plainLeft leftRoom
  have whole := (filled.append (fills_blanks (room - leftRoom))).append cut
  rw [Nat.add_sub_cancel' within, ← rooms, Nat.sub_add_cancel fits] at whole
  exact ⟨_, by rw [padded, Option.map_some, ← rooms], whole⟩

end

/-! ## Columns side by side -/

theorem exists_mapM {α β : Type} {f : α → Option β} {r : β → Prop} {items : List α}
    (found : ∀ a ∈ items, ∃ b, f a = some b ∧ r b) :
    ∃ results, items.mapM f = some results ∧ results.length = items.length ∧
      ∀ b ∈ results, r b := by
  induction items with
  | nil => exact ⟨[], rfl, rfl, by simp⟩
  | cons a items ih =>
    obtain ⟨b, first, holds⟩ := found a List.mem_cons_self
    obtain ⟨results, others, length, all⟩ := ih fun c member =>
      found c (List.mem_cons_of_mem a member)
    refine ⟨b :: results, ?_, by simp [length], List.forall_mem_cons.2 ⟨holds, all⟩⟩
    rw [List.mapM_cons, first, others]
    rfl

theorem exists_joinCells {width gap : Nat} {cells : List (List Char)}
    (plain : ∀ cell ∈ cells, Plain cell) :
    ∃ row, joinCells? width gap cells = some row ∧
      Fills (cells.length * width + gap * (cells.length - 1)) row := by
  induction cells with
  | nil => exact ⟨[], rfl, plain_nil, by simp⟩
  | cons cell cells ih =>
    obtain ⟨first, padded, filled⟩ := exists_pad (plain cell List.mem_cons_self) width
    cases cells with
    | nil => exact ⟨first, padded, by simpa using filled⟩
    | cons next cells =>
      obtain ⟨others, joined, filled'⟩ := ih fun d member => plain d (List.mem_cons_of_mem _ member)
      have whole := (filled.append (fills_blanks gap)).append filled'
      refine ⟨first ++ blanks gap ++ others, ?_, ?_⟩
      next => simp [joinCells?, padded, joined]
      next =>
        convert whole using 1
        simp only [List.length_cons, Nat.add_sub_cancel]
        ring

theorem foldl_max_le_iff {ns : List Nat} {least bound : Nat} :
    ns.foldl max least ≤ bound ↔ least ≤ bound ∧ ∀ n ∈ ns, n ≤ bound := by
  induction ns generalizing least with
  | nil => simp
  | cons n ns ih => simp [ih, and_assoc]

theorem le_foldl_max {ns : List Nat} {n : Nat} (member : n ∈ ns) (least : Nat) :
    n ≤ ns.foldl max least :=
  (foldl_max_le_iff.1 (Nat.le_refl _)).2 n member

theorem exists_columnize {width gap rows : Nat} {boxes : List (List (List Char))}
    (nonempty : boxes ≠ []) (same : ∀ box ∈ boxes, box.length = rows)
    (plain : ∀ box ∈ boxes, ∀ line ∈ box, Plain line) :
    ∃ lines, columnize? width gap false boxes = some lines ∧ lines.length = rows ∧
      ∀ line ∈ lines, Fills (boxes.length * width + gap * (boxes.length - 1)) line := by
  have height : (boxes.map List.length).foldl max 0 = rows := by
    apply Nat.le_antisymm
    next => simpa [foldl_max_le_iff] using fun box member => Nat.le_of_eq (same box member)
    next =>
      obtain ⟨box, others, rfl⟩ := List.exists_cons_of_ne_nil nonempty
      rw [← same box List.mem_cons_self]
      exact le_foldl_max (List.mem_map_of_mem List.mem_cons_self) 0
  have found : ∀ i ∈ List.range rows, ∃ line,
      (joinCells? width gap (boxes.map fun box => box[i]?.getD [])).map (trimRow false) =
        some line ∧ Fills (boxes.length * width + gap * (boxes.length - 1)) line := by
    intro i _
    have cells : ∀ cell ∈ boxes.map fun box => box[i]?.getD [], Plain cell := by
      intro cell member
      obtain ⟨box, inside, rfl⟩ := List.mem_map.1 member
      cases line : box[i]? with
      | none => exact plain_nil
      | some line => exact plain box inside _ (List.mem_of_getElem? line)
    obtain ⟨row, joined, filled⟩ := @exists_joinCells width gap _ cells
    rw [List.length_map] at filled
    exact ⟨row, by rw [joined]; rfl, filled⟩
  obtain ⟨lines, filled, length, all⟩ := exists_mapM found
  rw [List.length_range] at length
  refine ⟨lines, ?_, length, all⟩
  rw [columnize?, height]
  exact filled

end CardCatalog.Display
