import CardCatalog.Proofs.Query.Lexing

/-!
Where the lexemes of a text stand. Main statements: tokens and illegal characters follow each
other and leave out nothing but blanks, and tokens that are written down with blanks between them
are read back as they were written.
-/

set_option autoImplicit false

namespace CardCatalog.Query

namespace Lexeme

def start : Lexeme → Nat
  | token t => t.offset
  | illegal i => i.offset

/-- The byte after a lexeme. A phrase stands between two quotes. -/
def stop : Lexeme → Nat
  | token t => t.offset + t.text.utf8ByteSize + if t.kind = .quoted then 2 else 0
  | illegal i => i.offset + i.char.utf8Size

/-- Whether a lexeme can be read off the characters `piece` between others. -/
def Reads (before piece after : List Char) : Lexeme → Prop
  | token t => Written t.kind t.text piece ∧ t.kind.EndsBefore after ∧
      (t.kind = .word ∨ t.kind = .or → ∀ c ∈ before.getLast?, isWordChar c = false)
  | illegal i => piece = [i.char] ∧ Stray i.char after

/-- Whether a lexeme is read off some of the characters `cs` that stand after others. -/
def StandsIn (before cs : List Char) (l : Lexeme) : Prop :=
  ∃ front piece after, cs = front ++ piece ++ after ∧ l.start = byteLength (before ++ front) ∧
    l.stop = byteLength (before ++ front ++ piece) ∧ l.Reads (before ++ front) piece after

theorem StandsIn.prepend {before more cs : List Char} {l : Lexeme}
    (stands : l.StandsIn (before ++ more) cs) : l.StandsIn before (more ++ cs) := by
  obtain ⟨front, piece, after, rfl, start, stop, reads⟩ := stands
  refine ⟨more ++ front, piece, after, ?_⟩
  simpa only [List.append_assoc, true_and] using And.intro start (And.intro stop reads)

end Lexeme

theorem Written.stop_eq {kind : TokenKind} {text : String} {piece : List Char} (offset : Nat)
    (written : Written kind text piece) :
    (Lexeme.token ⟨kind, text, offset⟩).stop = offset + byteLength piece := by
  cases written with
  | word | or => simp [Lexeme.stop]
  | quoted quote isQuote absent =>
    simp only [Lexeme.stop, if_pos, byteLength_cons, byteLength_append, byteLength_toList,
      byteLength_nil, utf8Size_of_isQuote isQuote]
    omega
  | sign bare =>
    have unquoted : kind ≠ .quoted := by
      rintro rfl
      exact bare rfl
    simp [Lexeme.stop, unquoted]

theorem byteLength_pos {cs : List Char} (nonempty : cs ≠ []) : 0 < byteLength cs := by
  obtain ⟨c, rest, rfl⟩ := List.exists_cons_of_ne_nil nonempty
  have := c.utf8Size_pos
  rw [byteLength_cons]
  omega

/-! ## The lexemes one after the other -/

section

variable {offset : Nat} {cs : List Char} {ls : List Lexeme}

theorem Lexes.offset_le (lexes : Lexes offset cs ls) :
    ∀ l ∈ ls, offset ≤ l.start ∧ l.start < l.stop := by
  induction lexes with
  | nil => simp
  | blank _ _ ih =>
    intro l member
    have := ih l member
    omega
  | @token offset kind text piece rest ls written _ _ ih =>
    have stop := written.stop_eq offset
    have long := byteLength_pos written.ne_nil
    intro l member
    rcases List.mem_cons.1 member with rfl | member
    next =>
      refine ⟨Nat.le_refl _, ?_⟩
      rw [stop]
      exact Nat.lt_add_of_pos_right long
    next =>
      have := ih l member
      omega
  | @illegal offset c rest ls _ _ ih =>
    have long := c.utf8Size_pos
    intro l member
    rcases List.mem_cons.1 member with rfl | member
    next => exact ⟨Nat.le_refl _, Nat.lt_add_of_pos_right long⟩
    next =>
      have := ih l member
      omega

theorem Lexes.pairwise (lexes : Lexes offset cs ls) :
    ls.Pairwise fun l m => l.stop ≤ m.start := by
  induction lexes with
  | nil => exact .nil
  | blank _ _ ih => exact ih
  | token written _ others ih =>
    refine List.pairwise_cons.2 ⟨fun m member => ?_, ih⟩
    rw [written.stop_eq]
    exact (others.offset_le m member).1
  | illegal _ others ih =>
    exact List.pairwise_cons.2 ⟨fun m member => (others.offset_le m member).1, ih⟩

theorem Lexes.covers (lexes : Lexes offset cs ls) {front after : List Char} {c : Char}
    (split : cs = front ++ c :: after) (solid : isBlank c = false) :
    ∃ l ∈ ls, l.start ≤ offset + byteLength front ∧
      offset + byteLength front + c.utf8Size ≤ l.stop := by
  induction lexes generalizing front with
  | nil => cases front <;> cases split
  | @blank offset d rest ls blank _ ih =>
    cases front with
    | nil =>
      cases split
      rw [blank] at solid
      cases solid
    | cons e front =>
      cases split
      obtain ⟨l, member, starts, stops⟩ := ih rfl
      refine ⟨l, member, ?_⟩
      rw [byteLength_cons, utf8Size_of_isBlank blank]
      omega
  | @token offset kind text piece rest ls written _ _ ih =>
    -- The character stands after the token or within it.
    rcases List.append_eq_append_iff.1 split with ⟨more, rfl, others⟩ | ⟨more, rfl, others⟩
    next =>
      obtain ⟨l, member, starts, stops⟩ := ih others
      refine ⟨l, List.mem_cons_of_mem _ member, ?_⟩
      rw [byteLength_append]
      omega
    next =>
      cases more with
      | nil =>
        obtain ⟨l, member, starts, stops⟩ := @ih [] others.symm
        refine ⟨l, List.mem_cons_of_mem _ member, ?_⟩
        simp only [List.append_nil, byteLength_nil] at starts stops ⊢
        omega
      | cons d more =>
        cases others
        refine ⟨_, List.mem_cons_self, Nat.le_add_right _ _, ?_⟩
        rw [written.stop_eq, byteLength_append, byteLength_cons]
        omega
  | @illegal offset d rest ls _ _ ih =>
    cases front with
    | nil =>
      cases split
      exact ⟨_, List.mem_cons_self, Nat.le_refl _, Nat.le_refl _⟩
    | cons e front =>
      cases split
      obtain ⟨l, member, starts, stops⟩ := ih rfl
      refine ⟨l, List.mem_cons_of_mem _ member, ?_⟩
      rw [byteLength_cons]
      omega

theorem Lexes.standsIn {before : List Char} (lexes : Lexes offset cs ls)
    (starts : offset = byteLength before)
    (apart : (∀ c ∈ before.getLast?, isWordChar c = false) ∨
      ∀ c ∈ cs.head?, isWordChar c = false) :
    ∀ l ∈ ls, l.StandsIn before cs := by
  -- No word goes on across the seam between what was read and what follows; every step keeps that.
  induction lexes generalizing before with
  | nil => simp
  | @blank offset c rest ls blank _ ih =>
    have last : ∀ d ∈ (before ++ [c]).getLast?, isWordChar d = false := by
      simpa using isWordChar_of_isBlank blank
    have next : offset + 1 = byteLength (before ++ [c]) := by
      simp [starts, utf8Size_of_isBlank blank]
    intro l member
    exact (ih next (.inl last) l member).prepend
  | @token offset kind text piece rest ls written ends _ ih =>
    have seam : (∀ d ∈ (before ++ piece).getLast?, isWordChar d = false) ∨
        ∀ d ∈ rest.head?, isWordChar d = false := by
      by_cases word : kind = .word ∨ kind = .or
      next =>
        refine .inr ?_
        rcases word with rfl | rfl <;> exact ends
      next =>
        rw [List.getLast?_append_of_ne_nil _ written.ne_nil]
        exact .inl (written.getLast (not_or.1 word))
    intro l member
    rcases List.mem_cons.1 member with rfl | member
    next =>
      refine ⟨[], piece, rest, rfl, ?_, ?_, written, ends, fun word => ?_⟩
      next => rw [List.append_nil, ← starts, Lexeme.start]
      next => rw [written.stop_eq, List.append_nil, byteLength_append, starts]
      next =>
        rw [List.append_nil]
        refine apart.resolve_right fun others => ?_
        obtain ⟨c, more, same⟩ := List.exists_cons_of_ne_nil written.ne_nil
        have inside := written.made word c (by simp [same])
        rw [others c (by simp [same])] at inside
        cases inside
    next => exact (ih (by rw [starts, byteLength_append]) seam l member).prepend
  | @illegal offset c rest ls stray _ ih =>
    have last : ∀ d ∈ (before ++ [c]).getLast?, isWordChar d = false := by
      rcases stray with ⟨quote, -⟩ | ⟨-, word, -⟩
      next => simpa using isWordChar_of_isQuote quote
      next => simpa using word
    intro l member
    rcases List.mem_cons.1 member with rfl | member
    next =>
      refine ⟨[], [c], rest, rfl, ?_, ?_, rfl, stray⟩
      next => rw [List.append_nil, ← starts, Lexeme.start]
      next => simp [Lexeme.stop, starts]
    next => exact (ih (by simp [starts]) (.inl last) l member).prepend

end

theorem isValid_of_toList {text : String} {before after : List Char}
    (split : text.toList = before ++ after) :
    (⟨byteLength before⟩ : String.Pos.Raw).IsValid text := by
  rw [String.Pos.Raw.isValid_iff_exists_append]
  refine ⟨String.ofList before, String.ofList after, ?_, ?_⟩
  next => rw [← String.ofList_append, ← split, String.ofList_toList]
  next => rw [String.Pos.Raw.ext_iff, String.byteIdx_rawEndPos, ← byteLength_toList,
      String.toList_ofList]

theorem perm_tokens_illegalChars (ls : List Lexeme) :
    ((ls.filterMap Lexeme.token?).map Lexeme.token ++
      (ls.filterMap Lexeme.illegal?).map Lexeme.illegal).Perm ls := by
  induction ls with
  | nil => rfl
  | cons l ls ih =>
    cases l with
    | token t => exact ih.cons (.token t)
    | illegal i => exact List.perm_middle.trans (ih.cons (.illegal i))

theorem sublist_tokens (ls : List Lexeme) :
    ((ls.filterMap Lexeme.token?).map Lexeme.token).Sublist ls := by
  induction ls with
  | nil => exact .slnil
  | cons l ls ih =>
    cases l with
    | token t => exact ih.cons_cons (.token t)
    | illegal i => exact ih.cons (.illegal i)

theorem sublist_illegalChars (ls : List Lexeme) :
    ((ls.filterMap Lexeme.illegal?).map Lexeme.illegal).Sublist ls := by
  induction ls with
  | nil => exact .slnil
  | cons l ls ih =>
    cases l with
    | token t => exact ih.cons (.token t)
    | illegal i => exact ih.cons_cons (.illegal i)

/-- The tokens and the illegal characters of a text stand one after the other between its
characters, each made of what is its own, and only blanks are in none of them. -/
theorem lexemes_tile (text : String) :
    ((tokens text).map Lexeme.token).Sublist (lexemes text) ∧
    ((illegalChars text).map Lexeme.illegal).Sublist (lexemes text) ∧
    ((tokens text).map Lexeme.token ++ (illegalChars text).map Lexeme.illegal).Perm
      (lexemes text) ∧
    (lexemes text).Pairwise (fun l m => l.stop ≤ m.start) ∧
    (∀ l ∈ lexemes text, l.start < l.stop ∧
      (⟨l.start⟩ : String.Pos.Raw).IsValid text ∧ (⟨l.stop⟩ : String.Pos.Raw).IsValid text ∧
      ∃ before piece after, text.toList = before ++ piece ++ after ∧
        l.start = byteLength before ∧ l.stop = byteLength (before ++ piece) ∧
        l.Reads before piece after) ∧
    ∀ before c after, text.toList = before ++ c :: after → isBlank c = false →
      ∃ l ∈ lexemes text, l.start ≤ byteLength before ∧
        byteLength before + c.utf8Size ≤ l.stop := by
  have lexes := lexes_scan 0 text.toList
  refine ⟨sublist_tokens _, sublist_illegalChars _, perm_tokens_illegalChars _, lexes.pairwise,
    ?_, ?_⟩
  next =>
    intro l member
    have stands := @Lexes.standsIn _ _ _ [] lexes rfl (.inl (by simp)) l member
    obtain ⟨before, piece, after, split, start, stop, reads⟩ := stands
    rw [List.nil_append] at start stop reads
    refine ⟨(lexes.offset_le l member).2, ?_, ?_, before, piece, after, split, start, stop, reads⟩
    next =>
      rw [start]
      exact isValid_of_toList (split.trans (List.append_assoc _ _ _))
    next =>
      rw [stop]
      exact isValid_of_toList split
  next =>
    intro before c after split solid
    have covered := lexes.covers split solid
    rwa [Nat.zero_add] at covered

/-! ## Tokens as they are written -/

/-- A token with the blanks before it and the characters that it is written with. -/
structure Item where
  blanks : List Char
  kind : TokenKind
  text : String
  piece : List Char
  blank : ∀ c ∈ blanks, isBlank c = true
  written : Written kind text piece

def write (items : List Item) : List Char :=
  items.flatMap fun i => i.blanks ++ i.piece

/-- The tokens at the bytes where they are written, if `offset` bytes stand before them. -/
def placed (offset : Nat) : List Item → List Token
  | [] => []
  | i :: rest =>
    let start := offset + byteLength i.blanks
    ⟨i.kind, i.text, start⟩ :: placed (start + byteLength i.piece) rest

theorem Lexes.blanks {offset : Nat} {blanks rest : List Char} {ls : List Lexeme}
    (blank : ∀ c ∈ blanks, isBlank c = true)
    (others : Lexes (offset + byteLength blanks) rest ls) : Lexes offset (blanks ++ rest) ls := by
  induction blanks generalizing offset with
  | nil => exact others
  | cons c blanks ih =>
    have first : isBlank c = true := blank c List.mem_cons_self
    rw [byteLength_cons, utf8Size_of_isBlank first, ← Nat.add_assoc] at others
    exact .blank first (ih (fun d member => blank d (List.mem_cons_of_mem c member)) others)

theorem endsBefore_of_isBlank (kind : TokenKind) {rest : List Char}
    (blank : ∀ c ∈ rest.head?, isBlank c = true) : kind.EndsBefore rest := by
  cases kind with
  | word | or => exact fun c member => isWordChar_of_isBlank (blank c member)
  | greater | less | bang => exact fun follows => absurd (blank '=' follows) (by decide)
  | _ => trivial

theorem lexes_write {items : List Item} (offset : Nat)
    (apart : ∀ i ∈ items.tail, i.blanks ≠ []) :
    Lexes offset (write items) ((placed offset items).map .token) := by
  induction items generalizing offset with
  | nil => exact .nil offset
  | cons i rest ih =>
    have later : ∀ j ∈ rest.tail, j.blanks ≠ [] := fun j member =>
      apart j (List.mem_of_mem_tail member)
    have ends : i.kind.EndsBefore (write rest) := by
      refine endsBefore_of_isBlank i.kind ?_
      cases rest with
      | nil => simp [write]
      | cons j rest =>
        obtain ⟨c, more, same⟩ := List.exists_cons_of_ne_nil (apart j List.mem_cons_self)
        have first := j.blank c (by simp [same])
        simpa [write, same] using first
    have token := Lexes.token i.written ends (ih (offset + byteLength i.blanks +
      byteLength i.piece) later)
    simpa [write, placed] using Lexes.blanks i.blank token

/-- Tokens that are written in any way that fits them, with blanks between any two of them, are
read back with the bytes at which they stand, and nothing else is. -/
theorem tokens_write {items : List Item} (apart : ∀ i ∈ items.tail, i.blanks ≠ []) :
    tokens (String.ofList (write items)) = placed 0 items ∧
      illegalChars (String.ofList (write items)) = [] := by
  have reads : lexemes (String.ofList (write items)) = (placed 0 items).map Lexeme.token := by
    rw [lexemes, String.toList_ofList]
    exact (lexes_write 0 apart).scan_eq
  have kept : Lexeme.token? ∘ Lexeme.token = some := rfl
  have nothing : Lexeme.illegal? ∘ Lexeme.token = fun _ => none := rfl
  rw [tokens, illegalChars, reads, List.filterMap_map, List.filterMap_map, kept, nothing]
  simp

-- The apostrophe stands in a phrase between the other quotes, and the last phrase is empty.
def exactNameOrPrice : List Item :=
  [⟨[], .bang, "!", "!".toList, by simp, .sign (by decide)⟩,
    ⟨[' '], .quoted, "urza's tower", _, by simp [isBlank], .quoted '"' (by decide) (by decide)⟩,
    ⟨[' ', '\t'], .or, "oR", _, by simp [isBlank], .or (by decide)⟩,
    ⟨['\t'], .word, "price", _, by simp [isBlank],
      .word (by decide) (by simp [isWordChar]) (by decide)⟩,
    ⟨[' '], .atLeast, ">=", ">=".toList, by simp [isBlank], .sign (by decide)⟩,
    ⟨[' '], .quoted, "", _, by simp [isBlank], .quoted '\'' (by decide) (by decide)⟩]

theorem tokens_write_exactNameOrPrice :
    (∀ i ∈ exactNameOrPrice.tail, i.blanks ≠ []) ∧
      String.ofList (write exactNameOrPrice) = "! \"urza's tower\" \toR\tprice >= ''" ∧
      tokens "! \"urza's tower\" \toR\tprice >= ''" =
        [⟨.bang, "!", 0⟩, ⟨.quoted, "urza's tower", 2⟩, ⟨.or, "oR", 18⟩, ⟨.word, "price", 21⟩,
          ⟨.atLeast, ">=", 27⟩, ⟨.quoted, "", 30⟩] ∧
      illegalChars "! \"urza's tower\" \toR\tprice >= ''" = [] := by
  have apart : ∀ i ∈ exactNameOrPrice.tail, i.blanks ≠ [] := by
    simp [exactNameOrPrice]
  have written : String.ofList (write exactNameOrPrice) =
      "! \"urza's tower\" \toR\tprice >= ''" := by
    decide
  have stand : placed 0 exactNameOrPrice =
      [⟨.bang, "!", 0⟩, ⟨.quoted, "urza's tower", 2⟩, ⟨.or, "oR", 18⟩, ⟨.word, "price", 21⟩,
          ⟨.atLeast, ">=", 27⟩, ⟨.quoted, "", 30⟩] := by
    decide
  have reads := tokens_write apart
  rw [written, stand] at reads
  exact ⟨apart, written, reads⟩

end CardCatalog.Query
