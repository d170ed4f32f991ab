import CardCatalog.Proofs.Query.Joining
import CardCatalog.Proofs.Query.Tiling
import CardCatalog.Query.Parser

/-!
Search texts without their illegal characters. Main statement: a text in which every illegal
character has become blanks, one for each of its bytes, has the same tokens in the same places,
nothing illegal, and the same query.
-/

set_option autoImplicit false

namespace CardCatalog.Query

/-- The characters with blanks for those at the bytes `marked`, one blank for each byte, when the
first character stands at the byte `offset`. -/
def blankOut (marked : List Nat) (offset : Nat) : List Char → List Char
  | [] => []
  | c :: rest =>
    (if offset ∈ marked then List.replicate c.utf8Size ' ' else [c]) ++
      blankOut marked (offset + c.utf8Size) rest

/-- The text with blanks for its illegal characters. -/
def cleared (text : String) : String :=
  String.ofList (blankOut ((illegalChars text).map (·.offset)) 0 text.toList)

example : cleared "ser§ra 'b" = "ser  ra  b" := by cbv

section

variable {marked : List Nat} {offset : Nat} {rest : List Char}

theorem blankOut_append (cs ds : List Char) :
    blankOut marked offset (cs ++ ds) =
      blankOut marked offset cs ++ blankOut marked (offset + byteLength cs) ds := by
  induction cs generalizing offset with
  | nil => rfl
  | cons c cs ih =>
    simp only [List.cons_append, blankOut, ih, byteLength_cons, List.append_assoc, Nat.add_assoc]

theorem blankOut_of_unmarked {cs : List Char}
    (unmarked : ∀ o ∈ marked, offset ≤ o → offset + byteLength cs ≤ o) :
    blankOut marked offset cs = cs := by
  induction cs generalizing offset with
  | nil => rfl
  | cons c cs ih =>
    have long := c.utf8Size_pos
    simp only [byteLength_cons] at unmarked
    have first : offset ∉ marked := fun member => by
      have := unmarked offset member (Nat.le_refl _)
      omega
    have others : ∀ o ∈ marked, offset + c.utf8Size ≤ o →
        offset + c.utf8Size + byteLength cs ≤ o := fun o member after => by
      have := unmarked o member (by omega)
      omega
    rw [blankOut, if_neg first, ih others]
    rfl

theorem head?_blankOut (marked : List Nat) (offset : Nat) (cs : List Char) :
    (blankOut marked offset cs).head? = cs.head? ∨
      (blankOut marked offset cs).head? = some ' ' := by
  cases cs with
  | nil => exact .inl rfl
  | cons c rest =>
    have long : c.utf8Size ≠ 0 := c.utf8Size_pos.ne'
    by_cases member : offset ∈ marked
    next => exact .inr (by simp [blankOut, member, List.head?_append, List.head?_replicate, long])
    next => exact .inl (by simp [blankOut, member])

/-- Where a token ends, it also ends before blanks. -/
theorem TokenKind.EndsBefore.blankOut {kind : TokenKind} (ends : kind.EndsBefore rest)
    (marked : List Nat) (offset : Nat) : kind.EndsBefore (blankOut marked offset rest) := by
  obtain same | blank := head?_blankOut marked offset rest
  next =>
    cases kind with
    | word | or => simpa only [EndsBefore, same] using ends
    | greater | less | bang => simpa only [EndsBefore, same] using ends
    | _ => trivial
  next =>
    refine endsBefore_of_isBlank kind fun c member => ?_
    rw [blank] at member
    cases member
    rfl

theorem byteLength_replicate_blank (n : Nat) : byteLength (List.replicate n ' ') = n := by
  induction n with
  | zero => rfl
  | succ n ih =>
    rw [List.replicate_succ, byteLength_cons, ih]
    exact Nat.add_comm 1 n

/-- Characters are read as before, but for the illegal ones, if those from `offset` on that are
marked are the illegal ones. -/
theorem Lexes.blankOut {cs : List Char} {ls : List Lexeme} (lexes : Lexes offset cs ls)
    (marks : ∀ o, offset ≤ o → (o ∈ marked ↔ ∃ i, Lexeme.illegal i ∈ ls ∧ i.offset = o)) :
    Lexes offset (blankOut marked offset cs) ((ls.filterMap Lexeme.token?).map .token) := by
  induction lexes with
  | nil offset => exact .nil offset
  | @blank offset c rest ls blank others ih =>
    have size := utf8Size_of_isBlank blank
    have unmarked : offset ∉ marked := fun member => by
      obtain ⟨i, illegal, same⟩ := (marks offset (Nat.le_refl _)).1 member
      have after : offset + 1 ≤ i.offset := (others.offset_le _ illegal).1
      omega
    rw [Query.blankOut, if_neg unmarked, size]
    exact .blank blank (ih fun o after => marks o (by omega))
  | @token offset kind text piece rest ls written ends others ih =>
    have marks' : ∀ o, offset ≤ o →
        (o ∈ marked ↔ ∃ i, Lexeme.illegal i ∈ ls ∧ i.offset = o) := by
      simpa using marks
    -- Nothing is marked within a token, as the illegal characters after it stand further on.
    have whole : Query.blankOut marked offset piece = piece := by
      refine blankOut_of_unmarked fun o member after => ?_
      obtain ⟨i, illegal, rfl⟩ := (marks' o after).1 member
      exact (others.offset_le _ illegal).1
    rw [blankOut_append, whole]
    exact .token written (ends.blankOut marked _) (ih fun o after => marks' o (by omega))
  | @illegal offset c rest ls stray others ih =>
    have first : offset ∈ marked :=
      (marks offset (Nat.le_refl _)).2 ⟨_, List.mem_cons_self, rfl⟩
    have long := c.utf8Size_pos
    have later : ∀ o, offset + c.utf8Size ≤ o →
        (o ∈ marked ↔ ∃ i, Lexeme.illegal i ∈ ls ∧ i.offset = o) := by
      intro o after
      have apart : offset ≠ o := by omega
      simp [marks o (by omega), apart]
    rw [Query.blankOut, if_pos first]
    refine .blanks (fun d member => ?_) ?_
    next => rw [List.eq_of_mem_replicate member]; rfl
    next =>
      rw [byteLength_replicate_blank]
      exact ih later

end

/-- Illegal characters are of no other account than as many blanks as they have bytes. -/
theorem tokens_cleared (text : String) :
    tokens (cleared text) = tokens text ∧ illegalChars (cleared text) = [] ∧
      ∀ rate, compile rate (cleared text) = compile rate text := by
  have marks (o : Nat) (_ : 0 ≤ o) : o ∈ (illegalChars text).map (·.offset) ↔
      ∃ i, Lexeme.illegal i ∈ lexemes text ∧ i.offset = o := by
    simp only [List.mem_map, mem_illegalChars]
  have reads : lexemes (cleared text) = (tokens text).map .token := by
    rw [lexemes, cleared, String.toList_ofList]
    exact ((lexes_scan 0 text.toList).blankOut marks).scan_eq
  have kept : Lexeme.token? ∘ Lexeme.token = some := rfl
  have nothing : Lexeme.illegal? ∘ Lexeme.token = fun _ => none := rfl
  have same : tokens (cleared text) = tokens text := by
    rw [tokens, reads, List.filterMap_map, kept, List.filterMap_some]
  refine ⟨same, ?_, fun rate => ?_⟩
  next => rw [illegalChars, reads, List.filterMap_map, nothing, List.filterMap_none]
  next => rw [compile, compile, same]

end CardCatalog.Query
