import LogView.Unicode.Property
import LogView.Unicode.Script

/-!
# Boundaries of graphemes, words and sentences

Characters have a value for the boundaries of graphemes, one for those of words and one for those
of sentences.  The values are put together from other properties, as in the standard.  Characters
without a value cannot be asked for.
-/

namespace LogView
namespace Unicode

def script (name : String) : RangeTable := (script? name).getD #[]

/-- Marks that belong to the character before them. -/
def graphemeExtending : RangeTable := RangeTable.join [graphemeExtend, listed "emod"]

def graphemePrepend : RangeTable :=
  RangeTable.join [listed "pcm",
    RangeTable.ofText "D4E 111C2-111C3 113D1 1193F 11941 11A3A 11A84-11A89 11D46 11F02"]

def graphemeControl : RangeTable :=
  (RangeTable.join [categories ["cc", "zl", "zp", "cf"], (listed "di").without assigned]).without
    (RangeTable.join [RangeTable.ofText "A D 200C-200D", listed "pcm", graphemeExtending])

def graphemeSpacing : RangeTable :=
  (RangeTable.join [categories ["mc"], RangeTable.ofText "E33 EB3"]).without
    (RangeTable.join [graphemeExtending, graphemePrepend, RangeTable.ofText
      "102B-102C 1038 1062-1064 1067-106D 1083 1087-108C 108F 109A-109C 1A61 1A63-1A64 AA7B AA7D
11720-11721"])

/-- Syllables of Hangul without a final consonant. -/
def hangulOpen : RangeTable :=
  RangeTable.ofPoints ((List.range 399).map fun k => 0xAC00 + 28 * k)

def graphemeBreaks : List (List String × RangeTable) :=
  [(["cn", "control"], graphemeControl),
   (["cr"], #[(0xD, 0xD)]),
   (["ex", "extend"], graphemeExtending),
   (["l"], RangeTable.ofText "1100-115F A960-A97C"),
   (["lf"], #[(0xA, 0xA)]),
   (["lv"], hangulOpen),
   (["lvt"], RangeTable.without #[(0xAC00, 0xD7A3)] hangulOpen),
   (["pp", "prepend"], graphemePrepend),
   (["ri", "regionalindicator"], listed "ri"),
   (["sm", "spacingmark"], graphemeSpacing),
   (["t"], RangeTable.ofText "11A8-11FF D7CB-D7FB"),
   (["v"], RangeTable.ofText "1160-11A7 D7B0-D7C6 16D63 16D67-16D6A"),
   (["zwj"], #[(0x200D, 0x200D)])]

/-- Marks that belong to the word or the sentence before them. -/
def wordExtending : RangeTable := RangeTable.join [graphemeExtending, categories ["mc"]]

def wordKatakana : RangeTable :=
  RangeTable.join [script "kana", RangeTable.ofText "3031-3035 309B-309C 30A0 30FC FF70"]

def wordHebrew : RangeTable :=
  (categories ["lo"]).without (script "hebr").complement

/-- Signs that are no letters but stand for them. -/
def letterSigns : RangeTable :=
  RangeTable.ofText
    "2C2-2C5 2D2-2D7 2DE-2DF 2E5-2EB 2ED 2EF-2FF 55A-55C 55E 58A 5F3 70F A708-A716 A720-A721
A789-A78A AB5B"

/-- Scripts that do not mark where words end. -/
def unspacedScripts : List String :=
  ["thai", "laoo", "mymr", "khmr", "tale", "talu", "lana", "tavt", "ahom"]

def wordLetter : RangeTable :=
  (RangeTable.join [alphabetic, letterSigns]).without
    (RangeTable.join ([listed "ideo", wordKatakana, script "hira", wordExtending, wordHebrew] ++
      unspacedScripts.map script))

/-- Signs before numbers, the one for abbreviations apart. -/
def numberSigns : RangeTable := (listed "pcm").without #[(0x70F, 0x70F)]

def wordNumeric : RangeTable :=
  RangeTable.join [categories ["nd"], numberSigns, RangeTable.ofText "66B 19DA"]

def wordFormat : RangeTable :=
  (categories ["cf"]).without
    (RangeTable.join [RangeTable.ofText "200B-200D", listed "pcm", wordExtending])

def wordBreaks : List (List String × RangeTable) :=
  [(["cr"], #[(0xD, 0xD)]),
   (["dq", "doublequote"], #[(0x22, 0x22)]),
   (["ex", "extendnumlet"], RangeTable.join [categories ["pc"], #[(0x202F, 0x202F)]]),
   (["extend"], wordExtending),
   (["fo", "format"], wordFormat),
   (["hl", "hebrewletter"], wordHebrew),
   (["ka", "katakana"], wordKatakana),
   (["le", "aletter"], wordLetter),
   (["lf"], #[(0xA, 0xA)]),
   (["mb", "midnumlet"], RangeTable.ofText "2E 2018-2019 2024 FE52 FF07 FF0E"),
   (["ml", "midletter"], RangeTable.ofText "3A B7 387 55F 5F4 2027 FE13 FE55 FF1A"),
   (["mn", "midnum"],
    RangeTable.ofText "2C 3B 37E 589 60C-60D 66C 7F8 2044 FE10 FE14 FE50 FE54 FF0C FF1B"),
   (["nl", "newline"], RangeTable.ofText "B-C 85 2028-2029"),
   (["nu", "numeric"], wordNumeric),
   (["ri", "regionalindicator"], listed "ri"),
   (["sq", "singlequote"], #[(0x27, 0x27)]),
   (["wsegspace"], (categories ["zs"]).without (RangeTable.ofText "A0 2007 202F")),
   (["zwj"], #[(0x200D, 0x200D)])]

def sentenceExtending : RangeTable :=
  RangeTable.join [graphemeExtend, categories ["mc"], #[(0x200D, 0x200D)]]

def sentenceLower : RangeTable :=
  lowercase.without (RangeTable.join [graphemeExtend, RangeTable.ofText "10D0-10FA 10FD-10FF"])

def sentenceUpper : RangeTable :=
  (RangeTable.join [uppercase, categories ["lt"]]).without (RangeTable.ofText "1C90-1CBA 1CBD-1CBF")

def sentenceLetter : RangeTable :=
  (RangeTable.join [alphabetic, #[(0x5F3, 0x5F3)]]).without
    (RangeTable.join [sentenceLower, sentenceUpper, sentenceExtending])

/-- Stops that may end an abbreviation as well as a sentence. -/
def ambiguousStops : RangeTable := RangeTable.ofText "2E 2024 FE52 FF0E"

def sentenceStops : RangeTable := (listed "sterm").without ambiguousStops

def sentenceClose : RangeTable :=
  (RangeTable.join [categories ["ps", "pe", "pi", "pf"],
    RangeTable.ofText "22 27 275B-2760 2E00-2E01 2E06-2E08 2E0B 1F676-1F678"]).without sentenceStops

def sentenceFormat : RangeTable :=
  (categories ["cf"]).without
    (RangeTable.join [RangeTable.ofText "200C-200D", numberSigns, sentenceExtending])

def sentenceBreaks : List (List String × RangeTable) :=
  [(["at", "aterm"], ambiguousStops),
   (["cl", "close"], sentenceClose),
   (["cr"], #[(0xD, 0xD)]),
   (["ex", "extend"], sentenceExtending),
   (["fo", "format"], sentenceFormat),
   (["le", "oletter"], sentenceLetter),
   (["lf"], #[(0xA, 0xA)]),
   (["lo", "lower"], sentenceLower),
   (["nu", "numeric"], RangeTable.join [wordNumeric, #[(0x66C, 0x66C)]]),
   (["sc", "scontinue"],
    RangeTable.ofText
      "2C-2D 3A-3B 37E 55D 60C-60D 7F8 1802 1808 2013-2014 3001 FE10-FE11 FE13-FE14 FE31-FE32
FE50-FE51 FE54-FE55 FE58 FE63 FF0C-FF0D FF1A-FF1B FF64"),
   (["se", "sep"], RangeTable.ofText "85 2028-2029"),
   (["sp"], (listed "wspace").without (RangeTable.ofText "A D 85 2028-2029")),
   (["st", "sterm"], sentenceStops),
   (["up", "upper"], sentenceUpper)]

end Unicode
end LogView
