import LogView.Number.Typed
import LogView.Toml.Reader

/-!
# Dates and times

A date has a year, a month and a day that exists in it; a time has an hour, a minute and a second,
which may be a leap second, and may have a fraction.  A date may be followed by a time, and that by
the offset of its zone.
-/

namespace LogView
namespace Toml

def readNumeral (count : Nat) : Reader Nat := fun text =>
  let digits := text.take count
  if digits.length = count && digits.all Char.isDigit then
    some (Decimal.ofDigits digits, text.drop count)
  else none

/-- Reads two digits of a number in a range. -/
def readTwo (least greatest : Nat) : Reader Nat := fun text => do
  let (n, rest) ← readNumeral 2 text
  if least ≤ n && n ≤ greatest then some (n, rest) else none

def isLeapYear (year : Nat) : Bool :=
  year % 4 = 0 && (year % 100 ≠ 0 || year % 400 = 0)

def daysIn (year month : Nat) : Nat :=
  if month = 2 then if isLeapYear year then 29 else 28
  else if [4, 6, 9, 11].contains month then 30
  else 31

def afterDate? (text : List Char) : Option (List Char) := do
  let (year, rest) ← readNumeral 4 text
  let (month, rest) ← readTwo 1 12 (← char? '-' rest)
  let (_, rest) ← readTwo 1 (daysIn year month) (← char? '-' rest)
  some rest

/-- The text after a fraction of a second, if there is one. -/
def skipFraction : List Char → List Char
  | '.' :: d :: rest => if d.isDigit then rest.dropWhile Char.isDigit else '.' :: d :: rest
  | text => text

def afterTime? (text : List Char) : Option (List Char) := do
  let (_, rest) ← readTwo 0 23 text
  let (_, rest) ← readTwo 0 59 (← char? ':' rest)
  let (_, rest) ← readTwo 0 60 (← char? ':' rest)
  some (skipFraction rest)

def afterOffset? : List Char → Option (List Char)
  | c :: rest =>
    if c = 'Z' || c = 'z' then some rest
    else if c = '+' || c = '-' then do
      let (_, rest) ← readTwo 0 23 rest
      let (_, rest) ← readTwo 0 59 (← char? ':' rest)
      some rest
    else some (c :: rest)
  | [] => some []

/-- Whether a text begins with `count` digits and then a sign. -/
def beginsNumeral (count : Nat) (sign : Char) (text : List Char) : Bool :=
  (readNumeral count text).any fun (_, rest) => rest.head? = some sign

/-- The text after the time that may follow a date. -/
def afterDateTime? : List Char → Option (List Char)
  | c :: rest =>
    if (c = 'T' || c = 't' || c = ' ') && beginsNumeral 2 ':' rest then do
      afterOffset? (← afterTime? rest)
    else some (c :: rest)
  | [] => some []

/-- The text after a date, a time or both; nothing also if the text does not begin so. -/
def afterMoment? (text : List Char) : Option (List Char) :=
  if beginsNumeral 4 '-' text then do afterDateTime? (← afterDate? text) else afterTime? text

def beginsMoment (text : List Char) : Bool := beginsNumeral 4 '-' text || beginsNumeral 2 ':' text

end Toml
end LogView
