import LogView.Number.Shortest
import LogView.Toml.Reader
import LogView.Unicode.RangeTable

/-!
# Numbers

A whole number has decimal digits, or digits to the base 16, 8 or 2 behind a prefix, and lies in
the range of 64-bit integers.  Any other number has a point, an exponent or both, or is one of the
words for infinity and for no number.  One underscore may stand between two digits.
-/

namespace LogView
namespace Toml

inductive Number where
  | integer (n : Int)
  | real (value : Real64)
  deriving Repr, DecidableEq

/-- Reads digits, which single underscores may part; gives them without the underscores. -/
def readDigits (isDigit : Char → Bool) : Reader (List Char)
  | [] => none
  | c :: rest => if isDigit c then (more rest).map fun (cs, rest) => (c :: cs, rest) else none
where
  /-- Reads the digits that follow a digit. -/
  more : Reader (List Char)
    | '_' :: c :: rest =>
      if isDigit c then (more rest).map fun (cs, rest) => (c :: cs, rest) else none
    | '_' :: [] => none
    | c :: rest =>
      if isDigit c then (more rest).map fun (cs, rest) => (c :: cs, rest) else some ([], c :: rest)
    | [] => some ([], [])

def readBased (base : Nat) : Reader Int := fun text => do
  let isDigit := fun c => (Unicode.hexValue? c).any (· < base)
  let (digits, rest) ← readDigits isDigit text
  let n : Int := (digits.foldl (fun n c => n * base + (Unicode.hexValue? c).getD 0) 0 : Nat)
  if n ≤ maxInt64 then some (n, rest) else none

/-- Reads decimal digits of which the first is zero only if it is alone. -/
def readWhole : Reader (List Char)
  | '0' :: rest => some (['0'], rest)
  | text => readDigits Char.isDigit text

def readFraction : Reader (List Char)
  | '.' :: rest => readDigits Char.isDigit rest
  | text => some ([], text)

def readExponent : Reader (Option Int)
  | c :: rest =>
    if c = 'e' || c = 'E' then do
      let (negative, rest) := Decimal.readSign rest
      let (digits, rest) ← readDigits Char.isDigit rest
      let n : Int := Decimal.ofDigits digits
      some (some (if negative then -n else n), rest)
    else some (none, c :: rest)
  | [] => some (none, [])

/-- Reads decimal digits with a point, an exponent or neither, after a sign. -/
def readDecimal (negative : Bool) : Reader Number := fun text => do
  let (whole, rest) ← readWhole text
  let (fraction, rest) ← readFraction rest
  let (exponent, rest) ← readExponent rest
  if fraction.isEmpty && exponent.isNone then
    let n : Int := if negative then -(Decimal.ofDigits whole : Int) else Decimal.ofDigits whole
    if minInt64 ≤ n && n ≤ maxInt64 then some (.integer n, rest) else none
  else
    let value := Real64.ofDecimal
      ⟨negative, Decimal.ofDigits (whole ++ fraction), exponent.getD 0 - fraction.length⟩
    if value = .infinite false then none else some (.real value, rest)

def readNumber : Reader Number := fun text =>
  match text with
  | '0' :: 'x' :: rest => (readBased 16 rest).map fun (n, rest) => (.integer n, rest)
  | '0' :: 'o' :: rest => (readBased 8 rest).map fun (n, rest) => (.integer n, rest)
  | '0' :: 'b' :: rest => (readBased 2 rest).map fun (n, rest) => (.integer n, rest)
  | text =>
    let (negative, rest) := Decimal.readSign text
    match word? ['i', 'n', 'f'] rest, word? ['n', 'a', 'n'] rest with
    | some rest, _ => some (.real (.infinite negative), rest)
    | _, some rest => some (.real .undefined, rest)
    | none, none => readDecimal negative rest

end Toml
end LogView
