import Mathlib
import CardCatalog.Card.Basic
import CardCatalog.NameList

/-!
Lists that are written into one text column and read again: identities between commas, names
between commas that no space follows, and the names of faces between slashes. Main statement:
names with commas of their own are read again as they were joined.
-/

set_option autoImplicit false

namespace CardCatalog

namespace Text

variable {separator : Char}

theorem splitOn_of_notMem {cs : List Char} (absent : separator ∉ cs) :
    splitOn separator cs = [cs] := by
  induction cs with
  | nil => rfl
  | cons c rest ih =>
    obtain ⟨other, absent⟩ := not_or.1 (List.mem_cons.not.1 absent)
    simp [splitOn, Ne.symm other, ih absent]

theorem splitOn_append_cons {cs : List Char} (absent : separator ∉ cs) (rest : List Char) :
    splitOn separator (cs ++ separator :: rest) = cs :: splitOn separator rest := by
  induction cs with
  | nil => simp [splitOn]
  | cons c front ih =>
    obtain ⟨other, absent⟩ := not_or.1 (List.mem_cons.not.1 absent)
    simp [splitOn, Ne.symm other, ih absent]

theorem splitOn_intercalate {parts : List (List Char)} (nonempty : parts ≠ [])
    (absent : ∀ part ∈ parts, separator ∉ part) :
    splitOn separator ([separator].intercalate parts) = parts := by
  induction parts with
  | nil => exact absurd rfl nonempty
  | cons part rest ih =>
    obtain ⟨first, others⟩ := List.forall_mem_cons.1 absent
    cases rest with
    | nil => simpa using splitOn_of_notMem first
    | cons next rest =>
      rw [List.intercalate_cons_cons, List.append_assoc, List.singleton_append,
        splitOn_append_cons first, ih (List.cons_ne_nil _ _) others]

theorem splitOn_toList_intercalate {parts : List String} (given : parts ≠ [])
    (plain : ∀ part ∈ parts, ',' ∉ part.toList) :
    splitOn ',' (",".intercalate parts).toList = parts.map String.toList := by
  rw [String.toList_intercalate]
  apply splitOn_intercalate
  next => simpa using given
  next =>
    intro cs member
    obtain ⟨part, among, rfl⟩ := List.mem_map.1 member
    exact plain part among

theorem trimChars_of_forall {cs : List Char} (visible : ∀ c ∈ cs, isBlank c = false) :
    trimChars cs = cs := by
  have drop (ds : List Char) (visible : ∀ c ∈ ds, isBlank c = false) :
      ds.dropWhile isBlank = ds := by
    cases ds with
    | nil => rfl
    | cons d rest => simp [visible d List.mem_cons_self]
  rw [trimChars, trimEnd, drop cs visible, drop _ (by simpa using visible), List.reverse_reverse]

end Text

/-- An identity that stays what it is when it is written into a column of identities. -/
structure PlainId (id : String) : Prop where
  nonempty : id ≠ ""
  plain : ∀ c ∈ id.toList, c ≠ ',' ∧ Text.isBlank c = false

theorem plainId_iff {id : String} : PlainId id ↔
    id ≠ "" ∧ (id.toList.all fun c => c ≠ ',' && !Text.isBlank c) = true := by
  simp only [List.all_eq_true, Bool.and_eq_true, Bool.not_eq_true', decide_eq_true_eq]
  exact ⟨fun plain => ⟨plain.nonempty, plain.plain⟩, fun ⟨nonempty, plain⟩ => ⟨nonempty, plain⟩⟩

instance (id : String) : Decidable (PlainId id) :=
  decidable_of_iff _ plainId_iff.symm

theorem siblingIds_intercalate {ids : List String} (plain : ∀ id ∈ ids, PlainId id) :
    siblingIds (some (",".intercalate ids)) = ids := by
  cases ids with
  | nil => rfl
  | cons first rest =>
    have separate : ∀ id ∈ first :: rest, ',' ∉ id.toList := fun id among comma =>
      ((plain id among).plain _ comma).1 rfl
    have trimmed : ((first :: rest).map String.toList).map (String.ofList ∘ Text.trimChars) =
        first :: rest := by
      have each : ∀ id ∈ first :: rest,
          ((String.ofList ∘ Text.trimChars) ∘ String.toList) id = id := by
        intro id among
        have visible := fun c member => ((plain id among).plain c member).2
        simp [Text.trimChars_of_forall visible]
      rw [List.map_map, List.map_congr_left each, List.map_id']
    have columns := Text.splitOn_toList_intercalate (List.cons_ne_nil first rest) separate
    have kept : (first :: rest).filter (· ≠ "") = first :: rest :=
      List.filter_eq_self.2 fun id among => by simpa using (plain id among).nonempty
    calc siblingIds (some (",".intercalate (first :: rest)))
      _ = (((first :: rest).map String.toList).map (String.ofList ∘ Text.trimChars)).filter
          (· ≠ "") := by rw [siblingIds, columns]
      _ = (first :: rest).filter (· ≠ "") := by rw [trimmed]
      _ = first :: rest := kept

/-- A name that stays what it is when it is written into a column of names: a comma in it is told
from one between names by the space behind it. -/
structure PlainName (name : String) : Prop where
  nonempty : name ≠ ""
  unspaced : name.toList[0]? ≠ some ' '
  commas : ∀ i, name.toList[i]? = some ',' → name.toList[i + 1]? = some ' '

theorem plainName_iff {name : String} : PlainName name ↔
    name ≠ "" ∧ name.toList[0]? ≠ some ' ' ∧
    ∀ i < name.toList.length, name.toList[i]? = some ',' → name.toList[i + 1]? = some ' ' := by
  constructor
  next => exact fun plain => ⟨plain.nonempty, plain.unspaced, fun i _ => plain.commas i⟩
  next =>
    rintro ⟨nonempty, unspaced, commas⟩
    refine ⟨nonempty, unspaced, fun i comma => commas i ?_ comma⟩
    obtain ⟨inside, -⟩ := List.getElem?_eq_some_iff.1 comma
    exact inside

instance (name : String) : Decidable (PlainName name) :=
  decidable_of_iff _ plainName_iff.symm

theorem PlainName.exists_toList_intercalate {name : String} (plain : PlainName name)
    (rest : List String) :
    ∃ d ds, (",".intercalate (name :: rest)).toList = d :: ds ∧ d ≠ ' ' := by
  obtain ⟨d, ds, text⟩ :=
    List.exists_cons_of_ne_nil (String.toList_eq_nil_iff.not.2 plain.nonempty)
  have unspaced : d ≠ ' ' := by simpa [text] using plain.unspaced
  cases rest with
  | nil => exact ⟨d, ds, by simpa using text, unspaced⟩
  | cons next rest => simp [text, unspaced]

namespace NameList

/-! ## Names between commas -/

section

variable {cs : List Char}

theorem splitNames_ne_nil (cs : List Char) : splitNames cs ≠ [] := by
  fun_induction splitNames cs <;> simp

/-- Only a comma before something other than a space separates. -/
theorem splitNames_cons {c : Char} (joined : c = ',' → ∀ d ∈ cs.head?, d = ' ') :
    splitNames (c :: cs) = (splitNames cs).modifyHead (c :: ·) := by
  cases cs with
  | nil => rfl
  | cons d rest =>
    have stays : ¬ (c = ',' && decide (d ≠ ' ')) = true := by
      simpa using fun comma => joined comma d rfl
    rw [splitNames, if_neg stays]
    cases parts : splitNames (d :: rest) with
    | nil => exact absurd parts (splitNames_ne_nil _)
    | cons name names => rfl

theorem splitNames_of_commas (commas : ∀ i, cs[i]? = some ',' → cs[i + 1]? = some ' ') :
    splitNames cs = [cs] := by
  induction cs with
  | nil => rfl
  | cons c cs ih =>
    have joined : c = ',' → ∀ d ∈ cs.head?, d = ' ' := by
      rintro rfl d head
      have space : cs.head? = some ' ' := List.head?_eq_getElem? ▸ commas 0 rfl
      simpa [space, eq_comm] using head
    rw [splitNames_cons joined, ih fun i => commas (i + 1)]
    rfl

/-- A name ends at the comma behind it, whichever commas are in it. -/
theorem splitNames_append {d : Char} {rest : List Char}
    (commas : ∀ i, cs[i]? = some ',' → cs[i + 1]? = some ' ') (other : d ≠ ' ') :
    splitNames (cs ++ ',' :: d :: rest) = cs :: splitNames (d :: rest) := by
  induction cs with
  | nil => simp [splitNames, other]
  | cons c cs ih =>
    have joined : c = ',' → ∀ e ∈ (cs ++ ',' :: d :: rest).head?, e = ' ' := by
      rintro rfl e head
      have space : cs.head? = some ' ' := List.head?_eq_getElem? ▸ commas 0 rfl
      simpa [List.head?_append, space, eq_comm] using head
    rw [List.cons_append, splitNames_cons joined, ih fun i => commas (i + 1)]
    rfl

end

theorem splitNames_toList_intercalate {list : List String} (given : list ≠ [])
    (plain : ∀ name ∈ list, PlainName name) :
    splitNames (",".intercalate list).toList = list.map String.toList := by
  induction list with
  | nil => exact absurd rfl given
  | cons name rest ih =>
    obtain ⟨first, others⟩ := List.forall_mem_cons.1 plain
    cases rest with
    | nil => simpa using splitNames_of_commas first.commas
    | cons next rest =>
      have after := ih (List.cons_ne_nil next rest) others
      -- The comma separates, for the next name does not begin with a space.
      obtain ⟨d, ds, text, unspaced⟩ :=
        (others next List.mem_cons_self).exists_toList_intercalate rest
      have joined : (",".intercalate (name :: next :: rest)).toList =
          name.toList ++ ',' :: d :: ds := by simp [← text]
      rw [text] at after
      rw [joined, splitNames_append first.commas unspaced, after]
      rfl

/-- Names that are joined by commas are read again one by one. -/
theorem names_joined {list : List String} (given : list ≠ [])
    (plain : ∀ name ∈ list, PlainName name) :
    names (",".intercalate list) = list ∧
    (∀ value, holds (some (",".intercalate list)) value = true ↔
      ∃ name ∈ list, value = some name) ∧
    (∀ i (inside : i < list.length), get? (some (",".intercalate list)) i = some list[i]) ∧
    ∀ index : Int, index < 0 ∨ list.length ≤ index →
      get? (some (",".intercalate list)) index = none := by
  have whole : names (",".intercalate list) = list := by
    rw [names, splitNames_toList_intercalate given plain, List.map_map]
    simp
  refine ⟨whole, ?_, ?_, ?_⟩
  next =>
    intro value
    cases value with
    | none => simp [holds]
    | some value => simp [holds, whole]
  next =>
    intro i inside
    simp [get?, whole, inside]
  next =>
    intro index outside
    simp only [get?, whole]
    split
    next => rfl
    next =>
      rw [List.getElem?_eq_none_iff]
      omega

theorem names_joined_bruna :
    let list := ["Bruna, the Fading Light", "Æther, of, two", ", or nothing"]
    list ≠ [] ∧ (∀ name ∈ list, PlainName name) ∧
    names "Bruna, the Fading Light,Æther, of, two,, or nothing" = list ∧
    holds (some "Bruna, the Fading Light,Æther, of, two,, or nothing") (some "Æther") = false ∧
    get? (some "Bruna, the Fading Light,Æther, of, two,, or nothing") 1 = some "Æther, of, two" ∧
    get? (some "Bruna, the Fading Light,Æther, of, two,, or nothing") (-1) = none := by
  intro list
  have given : list ≠ [] := by decide
  have plain : ∀ name ∈ list, PlainName name := by decide
  obtain ⟨whole, member, inside, outside⟩ := names_joined given plain
  refine ⟨given, plain, whole, ?_, inside 1 (by decide), outside (-1) (.inl (by decide))⟩
  rw [Bool.eq_false_iff]
  intro found
  obtain ⟨name, among, same⟩ := (member (some "Æther")).1 found
  revert name
  decide

/-! ## Faces between slashes -/

theorem splitFaces_ne_nil (cs : List Char) : splitFaces cs ≠ [] := by
  fun_induction splitFaces cs <;> simp

/-- Between two names that are joined the text is split at least once. -/
theorem two_le_length_splitFaces {cs : List Char} (joined : " // ".toList <:+: cs) :
    2 ≤ (splitFaces cs).length := by
  fun_induction splitFaces cs with
  | case1 => simp at joined
  | case2 rest ih =>
    have parts := List.length_pos_of_ne_nil (splitFaces_ne_nil rest)
    simp only [List.length_cons]
    omega
  | case3 c rest other none ih => exact absurd none (splitFaces_ne_nil rest)
  | case4 c rest other face faces same ih =>
    rcases List.infix_cons_iff.1 joined with ⟨tail, front⟩ | later
    next => simp at front; grind
    next => simpa [same] using ih later

theorem two_le_length_faces {first second : String} {others : List String} :
    2 ≤ (faces (" // ".intercalate (first :: second :: others))).length := by
  rw [faces, List.length_map]
  refine two_le_length_splitFaces
    ⟨first.toList, (" // ".intercalate (second :: others)).toList, ?_⟩
  simp [String.toList_intercalate]

theorem splitFaces_cons {c : Char} {cs : List Char} (other : ¬ " // ".toList <+: c :: cs) :
    splitFaces (c :: cs) = (splitFaces cs).modifyHead (c :: ·) := by
  have apart : ∀ rest, c = ' ' → cs ≠ '/' :: '/' :: ' ' :: rest := by
    rintro rest rfl rfl
    exact other ⟨rest, rfl⟩
  rw [splitFaces.eq_3 c cs apart]
  cases parts : splitFaces cs with
  | nil => exact absurd parts (splitFaces_ne_nil cs)
  | cons face faces => rfl

theorem splitFaces_of_not_infix {cs : List Char} (plain : ¬ "//".toList <:+: cs) :
    splitFaces cs = [cs] := by
  induction cs with
  | nil => rfl
  | cons c cs ih =>
    have other : ¬ " // ".toList <+: c :: cs := fun front =>
      plain (List.IsInfix.trans ⟨[' '], [' '], rfl⟩ front.isInfix)
    rw [splitFaces_cons other, ih fun later => plain (List.infix_cons later)]
    rfl

/-- A name without two slashes ends where the slashes between two names stand. -/
theorem splitFaces_append {cs : List Char} (plain : ¬ "//".toList <:+: cs) (rest : List Char) :
    splitFaces (cs ++ " // ".toList ++ rest) = cs :: splitFaces rest := by
  induction cs with
  | nil => rfl
  | cons c cs ih =>
    -- What begins in the name would have both slashes in it.
    have other : ¬ " // ".toList <+: c :: (cs ++ " // ".toList ++ rest) := by
      rintro ⟨tail, same⟩
      match cs with
      | [] | [_] => simp at same
      | first :: second :: cs =>
        simp only [String.reduceToList, List.cons_append, List.cons.injEq] at same
        obtain ⟨-, rfl, rfl, -⟩ := same
        exact plain ⟨[c], cs, rfl⟩
    rw [List.cons_append, List.cons_append, splitFaces_cons other,
      ih fun later => plain (List.infix_cons later)]
    rfl

theorem faces_append {first second : String} (plainFirst : ¬ "//".toList <:+: first.toList)
    (plainSecond : ¬ "//".toList <:+: second.toList) :
    faces (first ++ " // " ++ second) = [first, second] := by
  rw [faces, String.toList_append, String.toList_append, splitFaces_append plainFirst,
    splitFaces_of_not_infix plainSecond]
  simp

end NameList

end CardCatalog
