/-!
# Tables of code point ranges

A property of characters is written as a text of hexadecimal ranges in increasing order, such as
`41-5A 5F 61-7A`.  Membership is decided by halving the table.  Several properties share one text
when each is headed by its names, separated by commas and closed by a colon.
-/

namespace LogView
namespace Unicode

/-- Ranges of code points, first and last, in increasing order. -/
abbrev RangeTable := Array (Nat × Nat)

namespace RangeTable

/-- Looks for `n` among the ranges from `lo` up to `hi`, halving at most `steps` times. -/
def search (table : RangeTable) (n : Nat) : (steps lo hi : Nat) → Bool
  | 0, _, _ => false
  | steps + 1, lo, hi =>
    if hi ≤ lo then false
    else
      let mid := (lo + hi) / 2
      match table[mid]? with
      | none => false
      | some (first, last) =>
        if n < first then search table n steps lo mid
        else if last < n then search table n steps (mid + 1) hi
        else true

def contains (table : RangeTable) (c : Char) : Bool :=
  search table c.toNat (table.size.log2 + 1) 0 table.size

/-- Extends the last range, kept in front, by a range that touches it. -/
def extend : List (Nat × Nat) → Nat × Nat → List (Nat × Nat)
  | [], range => [range]
  | (first, last) :: done, range =>
    if range.1 ≤ last + 1 then (first, max last range.2) :: done
    else range :: (first, last) :: done

def join (tables : List RangeTable) : RangeTable :=
  let sorted := (tables.flatMap Array.toList).mergeSort fun a b => a.1 ≤ b.1
  (sorted.foldl extend []).reverse.toArray

def ofPoints (points : List Nat) : RangeTable := join [(points.map fun n => (n, n)).toArray]

/-- The gaps before each range, counted from `start`, and the gap after the last one. -/
def gaps (start : Nat) : List (Nat × Nat) → List (Nat × Nat)
  | [] => if start ≤ 0x10FFFF then [(start, 0x10FFFF)] else []
  | (first, last) :: rest =>
    if start < first then (start, first - 1) :: gaps (last + 1) rest else gaps (last + 1) rest

def complement (table : RangeTable) : RangeTable :=
  (gaps 0 table.toList).toArray

def without (table other : RangeTable) : RangeTable :=
  (join [table.complement, other]).complement

end RangeTable

def hexValue? (c : Char) : Option Nat :=
  if '0' ≤ c && c ≤ '9' then some (c.toNat - '0'.toNat)
  else if 'a' ≤ c && c ≤ 'f' then some (c.toNat - 'a'.toNat + 10)
  else if 'A' ≤ c && c ≤ 'F' then some (c.toNat - 'A'.toNat + 10)
  else none

def hexNumber (digits : List Char) : Nat :=
  digits.foldl (fun n c => n * 16 + (hexValue? c).getD 0) 0

/-- Reads `41-5A` as a range and `5F` as the range of one code point. -/
def readRange (word : List Char) : Nat × Nat :=
  let first := word.takeWhile (· ≠ '-')
  match word.drop (first.length + 1) with
  | [] => (hexNumber first, hexNumber first)
  | last => (hexNumber first, hexNumber last)

/-- The words of a text, last first, from the word read so far, last character first. -/
def wordsFrom (done : List (List Char)) (rev : List Char) : List Char → List (List Char)
  | [] => if rev.isEmpty then done else rev.reverse :: done
  | c :: rest =>
    if c ≠ ' ' && c ≠ '\n' then wordsFrom done (c :: rev) rest
    else if rev.isEmpty then wordsFrom done [] rest
    else wordsFrom (rev.reverse :: done) [] rest

def RangeTable.ofText (source : String) : RangeTable :=
  ((wordsFrom [] [] source.toList).reverse.map readRange).toArray

/-- Gathers words, taken from the last to the first, under the headings that precede them. -/
def gather : List (List Char) → List (Nat × Nat) → List (List String × RangeTable) →
    List (List String × RangeTable)
  | [], _, done => done
  | word :: words, ranges, done =>
    match word.reverse with
    | ':' :: names =>
      let names := (names.reverse.splitOn ',').map String.ofList
      gather words [] ((names, ranges.toArray) :: done)
    | _ => gather words (readRange word :: ranges) done

def readTables (source : String) : List (List String × RangeTable) :=
  gather (wordsFrom [] [] source.toList) [] []

end Unicode
end LogView
