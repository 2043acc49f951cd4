/-!
# White space

A character is blank when it has the Unicode property `White_Space`.  Trimming removes blank
characters from both ends of a text, and a text is blank when nothing is left of it.
-/

namespace LogView
namespace Text

/-- The characters with the Unicode property `White_Space`. -/
def isBlank (c : Char) : Bool :=
  let n := c.toNat
  (9 ≤ n && n ≤ 13) || n == 0x20 || n == 0x85 || n == 0xA0 || n == 0x1680 ||
    (0x2000 ≤ n && n ≤ 0x200A) || n == 0x2028 || n == 0x2029 || n == 0x202F || n == 0x205F ||
    n == 0x3000

def trimChars (text : List Char) : List Char :=
  ((text.dropWhile isBlank).reverse.dropWhile isBlank).reverse

def trim (text : String) : String :=
  String.ofList (trimChars text.toList)

/--
ASCII capital letters become small ones, all else stays.  Which words come out as a given small word
of ASCII is the same as if letters of all scripts were lowered, unless that word has a `k`: the
Kelvin sign is the only other character that is lowered to ASCII alone.
-/
def lowerAscii (text : String) : String :=
  String.ofList (text.toList.map Char.toLower)

/-- The part before the first `sep` and the part after it, or nothing without a `sep`. -/
def splitOnce (sep : Char) : List Char → Option (List Char × List Char)
  | [] => none
  | c :: rest =>
    if c = sep then some ([], rest)
    else (splitOnce sep rest).map fun (head, tail) => (c :: head, tail)

end Text
end LogView
