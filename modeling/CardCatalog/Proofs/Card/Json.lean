import CardCatalog.Card.Json
import CardCatalog.Proofs.Card.Date
import CardCatalog.Proofs.Json

/-!
Cards read back from JSON. Main statement: a card of which all numbers are finite, at every depth,
is read back as it was from what a document holds of it.
-/

set_option autoImplicit false

namespace CardCatalog

open JsonValue

theorem Date.ofJson?_toJson (d : Date) : Date.ofJson? d.toJson = some d :=
  Date.ofText?_text d

theorem Layout.ofJson?_toJson (l : Layout) : Layout.ofJson? l.toJson = some l :=
  congrArg some (Layout.ofName_name l)

theorem Side.ofJson?_toJson (s : Side) : Side.ofJson? s.toJson = some s :=
  Side.ofName?_name s

theorem Legality.ofJson?_toJson (l : Legality) : Legality.ofJson? l.toJson = some l := rfl

theorem Ruling.ofJson?_toJson (r : Ruling) : Ruling.ofJson? r.toJson = some r := by
  simp [ofJson?, toJson, required, Toml.lookup_cons, Date.ofJson?_toJson]

theorem FaceGroup.ofJson?_toJson (g : FaceGroup) : FaceGroup.ofJson? g.toJson = some g := by
  have side := optionalOf_map Side.ofJson?_toJson (fun _ => nofun) g.side
  have siblings := defaultOf_list asString?_string g.siblings
  simp [ofJson?, toJson, required, optional_eq, withDefault_eq, List.lookup_append,
    Toml.lookup_cons, side, siblings]

theorem Face.ofJson?_fields (f : Face) (others : List JsonValue) :
    Face.ofJson? (.object (f.leadingFields ++ listField "other_faces" others ++
      f.trailingFields)) = some f := by
  have text := optionalOf_map asString?_string fun _ => nofun
  have price := optionalOf_map asNumber?_number (fun _ => nofun) f.price
  have priceDate := optionalOf_map Date.ofJson?_toJson (fun _ => nofun) f.priceDate
  have formats := optionalOf_map (asList?_map Legality.ofJson?_toJson) (fun _ => nofun) f.formats
  have rulings := optionalOf_map (asList?_map Ruling.ofJson?_toJson) (fun _ => nofun) f.rulings
  have list := defaultOf_list asString?_string
  simp only [ofJson?, required, optional_eq, withDefault_eq, leadingFields, trailingFields,
    get?_object, List.lookup_append, Toml.lookup_cons, lookup_flag, lookup_someField,
    lookup_listField, List.lookup_nil, String.reduceEq, if_true, if_false, Option.none_or,
    Option.or_none, Option.bind_some, bind, pure, asString?_string, asNumber?_number,
    asList?_ofStrings, defaultOf_flag, FaceGroup.ofJson?_toJson, Layout.ofJson?_toJson, text, list,
    price, priceDate, formats, rulings]

/-! ## Numbers of a card -/

theorem FaceGroup.written_toJson (g : FaceGroup) : g.toJson.written = g.toJson := by
  have side := writtenFields_someField Side.toJson "side" fun s (_ : s ∈ g.side) => rfl
  have siblings := writtenFields_listField string "sibling_uuids" fun s (_ : s ∈ g.siblings) => rfl
  simp only [toJson, written, writtenFields_append, writtenFields, side, siblings]

theorem Legality.written_toJson (l : Legality) : l.toJson.written = l.toJson := rfl

theorem Ruling.written_toJson (r : Ruling) : r.toJson.written = r.toJson := rfl

structure Face.Finite (f : Face) : Prop where
  cmc : Number.isFinite f.cmc = true
  price : ∀ x ∈ f.price, Number.isFinite x = true

theorem Face.Finite.written_fields {f : Face} (finite : f.Finite) :
    writtenFields f.leadingFields = f.leadingFields ∧
      writtenFields f.trailingFields = f.trailingFields := by
  have text (name : String) (value : Option String) :=
    writtenFields_someField string name fun s (_ : s ∈ value) => rfl
  have list (name : String) (items : List String) :=
    writtenFields_listField string name fun s (_ : s ∈ items) => rfl
  have token : writtenFields (if f.token then [("token", .bool true)] else []) =
      if f.token then [("token", .bool true)] else [] := by
    split <;> rfl
  have types : (ofStrings f.types).written = ofStrings f.types :=
    congrArg array (writtenItems_map string fun _ _ => rfl)
  have price := writtenFields_someField number "price" fun x member =>
    if_pos (finite.price x member)
  have date := writtenFields_someField Date.toJson "price_date" fun d (_ : d ∈ f.priceDate) => rfl
  have formats := writtenFields_someField (fun ls => array (ls.map Legality.toJson)) "formats"
    fun ls (_ : ls ∈ f.formats) => congrArg array (writtenItems_map _ fun l _ => l.written_toJson)
  have rulings := writtenFields_someField (fun rs => array (rs.map Ruling.toJson)) "rulings"
    fun rs (_ : rs ∈ f.rulings) => congrArg array (writtenItems_map _ fun r _ => r.written_toJson)
  constructor
  next =>
    simp only [leadingFields, writtenFields_append, writtenFields, written, text, list, token,
      types, finite.cmc, if_true, FaceGroup.written_toJson, Layout.toJson]
  next =>
    simp only [trailingFields, writtenFields_append, price, date, formats, rulings]

/-! ## Cards at every depth -/

namespace Card

/-- All numbers of the card and of its other faces, at every depth, are finite. -/
inductive Finite : Card → Prop where
  | intro {face : Face} {others : List Card} (numbers : face.Finite)
      (deeper : ∀ c ∈ others, Finite c) : Finite ⟨face, others⟩

theorem listToJson_eq (cards : List Card) : listToJson cards = cards.map toJson := by
  induction cards with
  | nil => rfl
  | cons c rest ih => rw [listToJson, ih, List.map_cons]

theorem toJson_mk (face : Face) (others : List Card) :
    toJson ⟨face, others⟩ = .object (face.leadingFields ++
      listField "other_faces" (others.map toJson) ++ face.trailingFields) := by
  rw [toJson, listToJson_eq]

/-- Reading a card without the bookkeeping that shows that reading ends. -/
theorem ofJson?_eq (j : JsonValue) : ofJson? j = (Face.ofJson? j).bind fun face =>
    match j.get? "other_faces" with
    | none => some ⟨face, []⟩
    | some (.array items) => (items.mapM ofJson?).map fun others => ⟨face, others⟩
    | some _ => none := by
  rw [ofJson?]
  refine congrArg (Option.bind _) (funext fun face => ?_)
  split
  next absent => rw [absent]; rfl
  next items present =>
    have attached : (items.attach.mapM fun x => ofJson? x.1) = items.mapM ofJson? := by
      rw [List.mapM_subtype fun _ _ => rfl, List.unattach_attach]
    rw [present]
    exact (congrArg (Option.bind · _) attached).trans Option.map_eq_bind.symm
  next other noList field =>
    rw [field]
    cases other with
    | array items => exact absurd rfl (noList items)
    | _ => rfl

theorem get?_otherFaces (face : Face) (others : List Card) :
    (toJson ⟨face, others⟩).get? "other_faces" = listValue? (others.map toJson) := by
  simp only [toJson_mk, Face.leadingFields, Face.trailingFields,
    get?_object, List.lookup_append, Toml.lookup_cons, lookup_flag, lookup_someField,
    lookup_listField, List.lookup_nil, String.reduceEq, if_true, if_false, Option.none_or,
    Option.or_none]

theorem ofJson?_toJson_of_forall (face : Face) {others : List Card}
    (reads : ∀ c ∈ others, ofJson? c.toJson = some c) :
    ofJson? (toJson ⟨face, others⟩) = some ⟨face, others⟩ := by
  have read : Face.ofJson? (toJson ⟨face, others⟩) = some face := by
    rw [toJson_mk, Face.ofJson?_fields]
  rw [ofJson?_eq, read, Option.bind_some, get?_otherFaces]
  cases others with
  | nil => rfl
  | cons c rest =>
    simp only [List.map_cons, listValue?]
    rw [← List.map_cons, mapM_read_map reads, Option.map_some]

theorem Finite.written_toJson {c : Card} (finite : c.Finite) : c.toJson.written = c.toJson := by
  induction finite with
  | @intro face others numbers deeper ih =>
    obtain ⟨leading, trailing⟩ := numbers.written_fields
    have otherFaces := writtenFields_listField toJson "other_faces" ih
    simp only [toJson_mk, written, writtenFields_append, leading, otherFaces, trailing]

theorem Finite.ofJson?_toJson {c : Card} (finite : c.Finite) : ofJson? c.toJson = some c := by
  induction finite with
  | intro _ _ ih => exact ofJson?_toJson_of_forall _ ih

/-- What a document holds of a card is read back as that card. -/
theorem ofJson?_written_toJson {c : Card} (finite : c.Finite) :
    ofJson? c.toJson.written = some c := by
  rw [finite.written_toJson, finite.ofJson?_toJson]

def littleGirl : Face where
  name := "Little Girl"
  names := ["Little Girl", "Big Girl"]
  group := ⟨"a", some .a, ["b"]⟩
  layout := .other
  setCode := "UNH"
  cmc := 0.5
  types := ["Creature"]
  typeLine := "Creature — Human Child"
  price := some 0.3
  priceDate := some ⟨12004, 11, 19, by decide⟩
  formats := some []
  rulings := some [⟨⟨-44, 3, 15, by decide⟩, "Half of a pip is half of a mana.\n"⟩]

def bigGirl : Face where
  name := "Big Girl"
  group := ⟨"b", none, []⟩
  layout := .normal
  token := true
  setCode := ""
  colors := ["W"]
  types := []
  typeLine := "\"Creature\""
  text := some ""
  formats := some [⟨"modern", "Legal"⟩]

theorem ofJson?_written_toJson_littleGirl : Finite ⟨littleGirl, [⟨bigGirl, []⟩]⟩ ∧
    ofJson? (toJson ⟨littleGirl, [⟨bigGirl, []⟩]⟩).written =
      some ⟨littleGirl, [⟨bigGirl, []⟩]⟩ := by
  have back : Finite ⟨bigGirl, []⟩ := ⟨⟨by decide +kernel, nofun⟩, nofun⟩
  have finite : Finite ⟨littleGirl, [⟨bigGirl, []⟩]⟩ := by
    refine ⟨⟨by decide +kernel, ?_⟩, ?_⟩
    next =>
      rintro x ⟨⟩
      decide +kernel
    next =>
      intro c member
      rw [List.mem_singleton.1 member]
      exact back
  exact ⟨finite, ofJson?_written_toJson finite⟩

end Card

end CardCatalog
