import CardCatalog.Card.Basic
import CardCatalog.Json

/-!
Cards as JSON. Fields without a value and empty lists are left out, but a list of formats or
rulings that is known to be empty is kept; on reading, what was left out is taken as missing or
empty, unknown fields are passed over, and an unknown layout is the layout `other`.
-/

set_option autoImplicit false

namespace CardCatalog

open JsonValue

def Date.ofJson? (j : JsonValue) : Option Date :=
  j.asString?.bind Date.ofText?

def Date.toJson (d : Date) : JsonValue :=
  .string d.text

def Layout.ofJson? (j : JsonValue) : Option Layout :=
  j.asString?.map Layout.ofName

def Layout.toJson (l : Layout) : JsonValue :=
  .string l.name

def Side.ofJson? (j : JsonValue) : Option Side :=
  j.asString?.bind Side.ofName?

def Side.toJson (s : Side) : JsonValue :=
  .string s.name

def FaceGroup.toJson (g : FaceGroup) : JsonValue :=
  .object
    ([("uuid", .string g.uuid)] ++ someField "side" Side.toJson g.side ++
      listField "sibling_uuids" (g.siblings.map .string))

def FaceGroup.ofJson? (j : JsonValue) : Option FaceGroup := do
  let uuid ← j.required "uuid" asString?
  let side ← j.optional "side" Side.ofJson?
  let siblings ← j.withDefault "sibling_uuids" [] (asList? asString?)
  return ⟨uuid, side, siblings⟩

def Legality.toJson (l : Legality) : JsonValue :=
  .object [("format", .string l.format), ("status", .string l.status)]

def Legality.ofJson? (j : JsonValue) : Option Legality := do
  let format ← j.required "format" asString?
  let status ← j.required "status" asString?
  return ⟨format, status⟩

def Ruling.toJson (r : Ruling) : JsonValue :=
  .object [("date", r.date.toJson), ("text", .string r.text)]

def Ruling.ofJson? (j : JsonValue) : Option Ruling := do
  let date ← j.required "date" Date.ofJson?
  let text ← j.required "text" asString?
  return ⟨date, text⟩

def Printing.toJson (p : Printing) : JsonValue :=
  .object ([("set_code", .string p.setCode)] ++ someField "price" .number p.price)

def Printing.ofJson? (j : JsonValue) : Option Printing := do
  let setCode ← j.required "set_code" asString?
  let price ← j.optional "price" asNumber?
  return ⟨setCode, price⟩

def SetInfo.ofJson? (j : JsonValue) : Option SetInfo := do
  let code ← j.required "code" asString?
  let kind ← j.required "set_type" asString?
  let date ← j.optional "release_date" Date.ofJson?
  return ⟨code, kind, date⟩

namespace Face

def leadingFields (f : Face) : List (String × JsonValue) :=
  [("name", .string f.name)] ++ listField "names" (f.names.map .string) ++
    [("faces", f.group.toJson), ("layout", f.layout.toJson)] ++
    (if f.token then [("token", .bool true)] else []) ++
    [("set_code", .string f.setCode)] ++ someField "mana_cost" .string f.manaCost ++
    [("cmc", .number f.cmc)] ++ someField "power" .string f.power ++
    someField "toughness" .string f.toughness ++ someField "loyalty" .string f.loyalty ++
    listField "colors" (f.colors.map .string) ++
    [("types", ofStrings f.types), ("type_line", .string f.typeLine)] ++
    someField "text" .string f.text ++ someField "rarity" .string f.rarity ++
    listField "printings" (f.printings.map .string)

def trailingFields (f : Face) : List (String × JsonValue) :=
  someField "price" .number f.price ++ someField "price_date" Date.toJson f.priceDate ++
    someField "formats" (fun ls => .array (ls.map Legality.toJson)) f.formats ++
    someField "rulings" (fun rs => .array (rs.map Ruling.toJson)) f.rulings

def ofJson? (j : JsonValue) : Option Face := do
  let name ← j.required "name" asString?
  let names ← j.withDefault "names" [] (asList? asString?)
  let group ← j.required "faces" FaceGroup.ofJson?
  let layout ← j.required "layout" Layout.ofJson?
  let token ← j.withDefault "token" false asBool?
  let setCode ← j.required "set_code" asString?
  let manaCost ← j.optional "mana_cost" asString?
  let cmc ← j.required "cmc" asNumber?
  let power ← j.optional "power" asString?
  let toughness ← j.optional "toughness" asString?
  let loyalty ← j.optional "loyalty" asString?
  let colors ← j.withDefault "colors" [] (asList? asString?)
  let types ← j.required "types" (asList? asString?)
  let typeLine ← j.required "type_line" asString?
  let text ← j.optional "text" asString?
  let rarity ← j.optional "rarity" asString?
  let printings ← j.withDefault "printings" [] (asList? asString?)
  let price ← j.optional "price" asNumber?
  let priceDate ← j.optional "price_date" Date.ofJson?
  let formats ← j.optional "formats" (asList? Legality.ofJson?)
  let rulings ← j.optional "rulings" (asList? Ruling.ofJson?)
  return { name, names, group, layout, token, setCode, manaCost, cmc, power, toughness, loyalty,
           colors, types, typeLine, text, rarity, printings, price, priceDate, formats, rulings }

end Face

namespace Card

mutual

def toJson : Card → JsonValue
  | ⟨face, others⟩ =>
    .object (face.leadingFields ++ listField "other_faces" (listToJson others) ++
      face.trailingFields)

def listToJson : List Card → List JsonValue
  | [] => []
  | c :: cs => c.toJson :: listToJson cs

end

/-- Reads a card and, at every depth, its other faces. -/
def ofJson? (j : JsonValue) : Option Card := do
  let face ← Face.ofJson? j
  match _h : j.get? "other_faces" with
  | none => return ⟨face, []⟩
  | some (.array items) =>
    let others ← items.attach.mapM fun ⟨item, _⟩ => ofJson? item
    return ⟨face, others⟩
  | some _ => none
termination_by sizeOf j
decreasing_by
  have := sizeOf_lt_of_get? _h
  have := List.sizeOf_lt_of_mem ‹item ∈ items›
  simp at *
  omega

end Card

end CardCatalog
