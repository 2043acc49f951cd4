import LogView.Number.Binary64
import LogView.Text.Blank

/-!
# Numbers as people type them

A typed number has an optional sign, digits with an optional point among or around them, and an
optional exponent; it stands for the nearest binary value.  Words for infinity and for no number
are read too, and give nothing.  The value is taken down to a whole number and held to the range
of 64-bit integers.
-/

namespace LogView

/-- A number as written: `digits * 10 ^ exponent`. -/
structure Decimal where
  negative : Bool
  digits : Nat
  exponent : Int
  deriving Repr, DecidableEq

namespace Decimal

def ofDigits (digits : List Char) : Nat :=
  digits.foldl (fun n c => n * 10 + (c.toNat - '0'.toNat)) 0

def readSign : List Char → Bool × List Char
  | '-' :: rest => (true, rest)
  | '+' :: rest => (false, rest)
  | text => (false, text)

def readDigits (text : List Char) : List Char × List Char :=
  (text.takeWhile Char.isDigit, text.dropWhile Char.isDigit)

/-- Reads an exponent that ends the text, or the end of the text. -/
def readExponent? : List Char → Option Int
  | [] => some 0
  | e :: text =>
    if e = 'e' || e = 'E' then
      let (negative, text) := readSign text
      match readDigits text with
      | ([], _) | (_, _ :: _) => none
      | (digits, []) => some (if negative then -(ofDigits digits : Int) else ofDigits digits)
    else none

def read? (text : List Char) : Option Decimal :=
  let (negative, text) := readSign text
  let (whole, text) := readDigits text
  let (fraction, text) := match text with
    | '.' :: rest => readDigits rest
    | text => ([], text)
  if whole.isEmpty && fraction.isEmpty then none
  else (readExponent? text).map fun exponent =>
    ⟨negative, ofDigits (whole ++ fraction), exponent - fraction.length⟩

/-- How many digits a number has. -/
def size (n : Nat) : Nat := (Nat.toDigits 10 n).length

/--
The nearest binary value.  Numbers from `10 ^ 310` on are beyond the range, and numbers below
`10 ^ -330` are nearest to zero.
-/
def toBinary64? (number : Decimal) : Option Binary64 :=
  let magnitude : Int := number.exponent + size number.digits
  if number.digits = 0 || magnitude < -330 then some Binary64.zero
  else if 310 < magnitude then none
  else if 0 ≤ number.exponent then
    Binary64.ofRatio? (number.digits * Nat.pow 10 number.exponent.toNat) 1
  else Binary64.ofRatio? number.digits (Nat.pow 10 (-number.exponent).toNat)

end Decimal

def minInt64 : Int := -9223372036854775808

def maxInt64 : Int := 9223372036854775807

/-- The 64-bit integer nearest to a number. -/
def saturate (n : Int) : Int := max minInt64 (min maxInt64 n)

/-- The whole number that a typed number comes down to. -/
def typedNumber? (text : String) : Option Int := do
  let number ← Decimal.read? (Text.trimChars text.toList)
  let value ← number.toBinary64?
  some (saturate (value.floor number.negative))

end LogView
