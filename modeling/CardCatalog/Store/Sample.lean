import CardCatalog.Store.Basic

/-!
A small sample catalogue: plain cards with reprints, one card of every layout with several faces,
and rows that listings never show.
-/

set_option autoImplicit false

namespace CardCatalog.Sample

/-- A day between the years 0 and 9999 given by its parts; a wrong one is no date. -/
def day (year : Int) (month day : Nat) : Option Date :=
  Date.ofParts? year month day

def sets : List SetInfo :=
  [ ⟨"M15", "core", day 2014 7 18⟩,
    ⟨"10E", "core", day 2007 7 13⟩,
    ⟨"A25", "masters", day 2018 3 16⟩,
    ⟨"VMA", "masters", day 2014 6 16⟩,
    ⟨"ELD", "expansion", day 2019 10 4⟩,
    ⟨"APC", "expansion", day 2001 6 4⟩,
    ⟨"AKH", "expansion", day 2017 4 28⟩,
    ⟨"ISD", "expansion", day 2011 9 30⟩,
    ⟨"BOK", "expansion", day 2005 2 4⟩,
    ⟨"EMN", "expansion", day 2016 7 22⟩,
    ⟨"CMB1", "funny", day 2019 11 7⟩,
    ⟨"TM15", "token", day 2014 7 18⟩,
    ⟨"TA25", "token", day 2018 3 16⟩ ]

def plain (uuid name setCode : String) : CardRow :=
  { uuid := uuid, name := name, setCode := setCode, availability := "mtgo,paper",
    rarity := some "common" }

def serraAngel (uuid setCode : String) : CardRow :=
  { plain uuid "Serra Angel" setCode with
    manaCost := some "{3}{W}{W}", cmc := 5, power := some "4", toughness := some "4",
    types := "Creature", colors := some "W", subtypes := some "Angel",
    typeLine := "Creature — Angel", text := some "Flying\nVigilance",
    rarity := some "uncommon", printings := some "10E,A25,M15" }

def shivanDragon : CardRow :=
  { plain "shivan-m15" "Shivan Dragon" "M15" with
    manaCost := some "{4}{R}{R}", cmc := 6, power := some "5", toughness := some "5",
    types := "Creature", colors := some "R", subtypes := some "Dragon",
    typeLine := "Creature — Dragon",
    text := some "Flying\n\x7bR\x7d: Shivan Dragon gets +1/+0 until end of turn.",
    rarity := some "rare" }

/-- The faces of one card of several faces, with its layout, set and name. -/
def face (name setCode layout : String) (uuid faceName side others : String) : CardRow :=
  { plain uuid name setCode with
    faceName := some faceName, layout := layout, side := some side, otherFaceIds := some others }

def fireIce : List CardRow :=
  let face := face "Fire // Ice" "APC" "split"
  [ { face "fire-apc" "Fire" "a" "ice-apc" with
      manaCost := some "{1}{R}", cmc := 4, types := "Instant", typeLine := "Instant",
      colors := some "R",
      text := some "Fire deals 2 damage divided as you choose among one or two targets." },
    { face "ice-apc" "Ice" "b" "fire-apc" with
      manaCost := some "{1}{U}", cmc := 4, types := "Instant", typeLine := "Instant",
      colors := some "U", text := some "Tap target permanent.\nDraw a card." } ]

def bonecrusherGiant : List CardRow :=
  let face := face "Bonecrusher Giant // Stomp" "ELD" "adventure"
  [ { face "bonecrusher-eld" "Bonecrusher Giant" "a" "stomp-eld" with
      manaCost := some "{2}{R}", cmc := 3, power := some "4", toughness := some "3",
      types := "Creature", colors := some "R", subtypes := some "Giant",
      typeLine := "Creature — Giant", rarity := some "rare",
      text := some ("Whenever Bonecrusher Giant becomes the target of a spell, " ++
        "Bonecrusher Giant deals 2 damage to that spell's controller.") },
    { face "stomp-eld" "Stomp" "b" "bonecrusher-eld" with
      manaCost := some "{1}{R}", cmc := 3, types := "Instant", colors := some "R",
      subtypes := some "Adventure", typeLine := "Instant — Adventure",
      text := some ("Damage can't be prevented this turn. " ++
        "Stomp deals 2 damage to any target.") } ]

def commitMemory : List CardRow :=
  let face := face "Commit // Memory" "AKH" "aftermath"
  [ { face "commit-akh" "Commit" "a" "memory-akh" with
      manaCost := some "{3}{U}", cmc := 10, types := "Instant", typeLine := "Instant",
      colors := some "U",
      text := some ("Put target spell or nonland permanent into its owner's library " ++
        "second from the top.") },
    { face "memory-akh" "Memory" "b" "commit-akh" with
      manaCost := some "{4}{U}{U}", cmc := 10, types := "Sorcery", typeLine := "Sorcery",
      colors := some "U",
      text := some ("Aftermath\nEach player shuffles their hand and graveyard into their " ++
        "library, then draws seven cards.") } ]

def delverOfSecrets : List CardRow :=
  let face := face "Delver of Secrets // Insectile Aberration" "ISD" "transform"
  [ { face "delver-isd" "Delver of Secrets" "a" "aberration-isd" with
      manaCost := some "{U}", cmc := 1, power := some "1", toughness := some "1",
      types := "Creature", colors := some "U", subtypes := some "Human,Wizard",
      typeLine := "Creature — Human Wizard",
      text := some ("At the beginning of your upkeep, look at the top card of your " ++
        "library.") },
    { face "aberration-isd" "Insectile Aberration" "b" "delver-isd" with
      cmc := 1, power := some "3", toughness := some "2", types := "Creature",
      colors := some "U", subtypes := some "Human,Insect",
      typeLine := "Creature — Human Insect", text := some "Flying" } ]

def bushiTenderfoot : List CardRow :=
  let face := face "Bushi Tenderfoot // Kenzo the Hardhearted" "BOK" "flip"
  [ { face "bushi-bok" "Bushi Tenderfoot" "a" "kenzo-bok" with
      manaCost := some "{W}", cmc := 1, power := some "1", toughness := some "1",
      types := "Creature", colors := some "W", subtypes := some "Human,Soldier",
      typeLine := "Creature — Human Soldier",
      text := some ("When a creature dealt damage by Bushi Tenderfoot this turn dies, " ++
        "flip Bushi Tenderfoot.") },
    { face "kenzo-bok" "Kenzo the Hardhearted" "b" "bushi-bok" with
      manaCost := some "{W}", cmc := 1, power := some "3", toughness := some "4",
      types := "Creature", colors := some "W", subtypes := some "Human,Samurai",
      supertypes := some "Legendary", typeLine := "Legendary Creature — Human Samurai",
      text := some "Double strike; bushido 2" } ]

def brisela : List CardRow :=
  let bruna := "Bruna, the Fading Light // Brisela, Voice of Nightmares"
  let gisela := "Gisela, the Broken Blade // Brisela, Voice of Nightmares"
  [ { face bruna "EMN" "meld" "bruna-emn" "Bruna, the Fading Light" "a" "brisela-emn" with
      manaCost := some "{5}{W}{W}", cmc := 7, power := some "5", toughness := some "7",
      types := "Creature", colors := some "W", subtypes := some "Angel,Horror",
      supertypes := some "Legendary", typeLine := "Legendary Creature — Angel Horror",
      text := some "Flying, vigilance", rarity := some "rare" },
    { face gisela "EMN" "meld" "gisela-emn" "Gisela, the Broken Blade" "b" "brisela-emn" with
      manaCost := some "{2}{W}{W}", cmc := 4, power := some "4", toughness := some "3",
      types := "Creature", colors := some "W", subtypes := some "Angel,Horror",
      supertypes := some "Legendary", typeLine := "Legendary Creature — Angel Horror",
      text := some "Flying, first strike, lifelink", rarity := some "mythic" },
    { face bruna "EMN" "meld" "brisela-emn" "Brisela, Voice of Nightmares" "c"
        "bruna-emn,gisela-emn" with
      cmc := 11, power := some "9", toughness := some "10", types := "Creature",
      colors := some "W", subtypes := some "Eldrazi,Angel", supertypes := some "Legendary",
      typeLine := "Legendary Creature — Eldrazi Angel",
      text := some "Flying, first strike, vigilance, lifelink", rarity := some "mythic" } ]

/-- Rows of a novelty set and of a set that exists in digital form only. -/
def neverListed : List CardRow :=
  [ { plain "playtest-cmb1" "Playtest Angel" "CMB1" with
      manaCost := some "{2}{W}", cmc := 3, power := some "2", toughness := some "2",
      types := "Creature", colors := some "W", subtypes := some "Angel",
      typeLine := "Creature — Angel", text := some "Flying" },
    { plain "dragon-vma" "Digital Dragon" "VMA" with
      manaCost := some "{3}{R}", cmc := 4, power := some "4", toughness := some "4",
      types := "Creature", colors := some "R", subtypes := some "Dragon",
      typeLine := "Creature — Dragon", text := some "Flying", availability := "mtgo" } ]

def cards : List CardRow :=
  [serraAngel "serra-m15" "M15", serraAngel "serra-a25" "A25", serraAngel "serra-10e" "10E",
    shivanDragon] ++ fireIce ++ bonecrusherGiant ++ commitMemory ++ delverOfSecrets ++
    bushiTenderfoot ++ brisela ++ neverListed

def angelToken (uuid setCode : String) : TokenRow :=
  CardRow.toToken
    { plain uuid "Angel" setCode with
      colors := some "W", types := "Creature", typeLine := "Token Creature — Angel",
      text := some "Flying", power := some "4", toughness := some "4" }

def tokens : List TokenRow :=
  [angelToken "angel-tm15" "TM15", angelToken "angel-ta25" "TA25"]

def legal (uuid : String) (formats : List String) : List (String × Legality) :=
  formats.map fun f => (uuid, ⟨f, "Legal"⟩)

def legalities : List (String × Legality) :=
  legal "serra-m15" ["commander", "legacy", "modern", "pauper", "vintage"] ++
  legal "shivan-m15" ["commander", "legacy", "modern", "vintage"] ++
  legal "bonecrusher-eld" ["commander", "modern", "pioneer", "standard"] ++
  [("delver-isd", ⟨"pauper", "Banned"⟩)]

def prices : List (String × Float × Option Date) :=
  [ ("serra-m15", 0.30, day 2020 4 1),
    ("serra-m15", 0.25, day 2020 5 1),
    ("serra-a25", 0.35, day 2020 5 1),
    ("shivan-m15", 0.50, day 2020 5 1),
    ("bonecrusher-eld", 2.10, day 2020 5 1),
    ("delver-isd", 1.25, day 2020 5 1),
    ("angel-tm15", 0.15, day 2020 5 1),
    ("angel-ta25", 0.40, day 2020 5 1) ]

def ruling (uuid : String) (date : Option Date) (text : String) : List (String × Ruling) :=
  match date with
  | some date => [(uuid, ⟨date, text⟩)]
  | none => []

def rulings : List (String × Ruling) :=
  ruling "serra-m15" (day 2014 7 18)
    "Vigilance means attacking doesn't cause Serra Angel to tap." ++
  ruling "bonecrusher-eld" (day 2019 10 4)
    "Stomp's effect applies to all damage dealt this turn." ++
  ruling "bonecrusher-eld" (day 2019 10 4)
    "If Bonecrusher Giant is the target of an Aura spell, its ability triggers."

def store : Store :=
  let s := sets.foldl Store.insertSet Store.empty
  let s := cards.foldl Store.insertCard s
  let s := tokens.foldl Store.insertToken s
  let s := legalities.foldl (fun s (uuid, l) => s.insertLegality uuid l) s
  let s := prices.foldl (fun s (uuid, price, date) => s.insertPrice uuid price date) s
  rulings.foldl (fun s (uuid, r) => s.insertRuling uuid r) s

end CardCatalog.Sample
