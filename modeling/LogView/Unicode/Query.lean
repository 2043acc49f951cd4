import LogView.Unicode.Age
import LogView.Unicode.Segmentation

/-!
# Asking for a property by name

Names of properties and of their values are compared without regard to case, blanks, hyphens,
underscores and a leading `is`.  A bare name may be a binary property, a general category or a
script, and is looked for in this order.
-/

namespace LogView
namespace Unicode

inductive Missing where
  | property
  | value
  deriving Repr, DecidableEq

/-- A name without the differences that do not matter. -/
def plainName (name : String) : String :=
  let chars := name.toList
  let (afterIs, chars) := match chars with
    | i :: s :: rest =>
      if (i = 'i' || i = 'I') && (s = 's' || s = 'S') then (true, rest) else (false, chars)
    | _ => (false, chars)
  let kept := chars.filter fun c => c.toNat < 128 && c ≠ ' ' && c ≠ '_' && c ≠ '-'
  let plain := String.ofList (kept.map Char.toLower)
  if afterIs && plain = "c" then "isc" else plain

/-- The names of other properties with values, for which no value can be asked. -/
def otherPropertyNames : List String :=
  ["bc", "bidiclass", "blk", "block", "bmg", "bidimirroringglyph", "bpb", "bidipairedbracket",
   "bpt", "bidipairedbrackettype", "ccc", "canonicalcombiningclass", "ce", "compositionexclusion",
   "cf", "casefolding", "compex", "fullcompositionexclusion", "cwkcf", "changeswhennfkccasefolded",
   "dm", "decompositionmapping", "dt", "decompositiontype", "ea", "eastasianwidth", "fcnfkc",
   "fcnfkcclosure", "hst", "hangulsyllabletype", "incb", "indicconjunctbreak", "inpc",
   "indicpositionalcategory", "insc", "indicsyllabiccategory", "isc", "isocomment", "jg",
   "joininggroup", "jsn", "jamoshortname", "jt", "joiningtype", "lb", "linebreak", "lc",
   "lowercasemapping", "na", "name", "na1", "unicode1name", "namealias", "nfcqc", "nfcquickcheck",
   "nfdqc", "nfdquickcheck", "nfkccf", "nfkccasefold", "nfkcqc", "nfkcquickcheck", "nfkcscf",
   "nfkcsimplecasefold", "nfkdqc", "nfkdquickcheck", "nt", "numerictype", "nv", "numericvalue",
   "scf", "simplecasefolding", "sfc", "slc", "simplelowercasemapping", "stc",
   "simpletitlecasemapping", "suc", "simpleuppercasemapping", "tc", "titlecasemapping", "uc",
   "uppercasemapping", "vo", "verticalorientation", "xonfc", "expandsonnfc", "xonfd",
   "expandsonnfd", "xonfkc", "expandsonnfkc", "xonfkd", "expandsonnfkd"]

/-- The categories that may be asked for, with the groups that are no categories. -/
def anyCategory? (name : String) : Option RangeTable :=
  if name = "any" then some #[(0, 0x10FFFF)]
  else if name = "assigned" then some unassigned.complement
  else if name = "ascii" then some #[(0, 0x7F)]
  else category? name

/-- The names of the category whose code points are no characters. -/
def surrogateNames : List String := ["cs", "surrogate"]

/-- The code points that a bare name stands for. -/
def named (name : String) : Except Missing RangeTable :=
  let name := plainName name
  let binary := if name = "cf" || name = "sc" || name = "lc" then none else property? name
  match binary.or ((anyCategory? name).or (script? name)) with
  | some table => .ok table
  | none => .error (if surrogateNames.contains name then .value else .property)

/-- The properties with values, each with its names and with what a value stands for. -/
def valuedProperties : List (List String × (String → Option RangeTable)) :=
  [(["gc", "generalcategory", "category"], anyCategory?),
   (["sc", "script"], script?),
   (["scx", "scriptextensions"], scriptExtension?),
   (["age"], age?),
   (["gcb", "graphemeclusterbreak"], findTable? graphemeBreaks),
   (["sb", "sentencebreak"], findTable? sentenceBreaks),
   (["wb", "wordbreak"], findTable? wordBreaks)]

def valued (name value : String) : Except Missing RangeTable :=
  let name := plainName name
  match valuedProperties.find? fun property => property.1.contains name with
  | some (_, table?) =>
    match table? (plainName value) with
    | some table => .ok table
    | none => .error .value
  | none =>
    .error (if otherPropertyNames.contains name || (property? name).isSome then .value
      else .property)

end Unicode
end LogView
