import LogView.Pattern.Reader.Escape

/-!
# How often a part repeats

A counted repetition stands between braces: `{3}`, `{3,}` or `{3,5}`.  Blanks may stand around
its numbers.  A question mark after any repetition makes it prefer fewer passes.
-/

namespace LogView
namespace Pattern
namespace Reader

/-- How often a part repeats, and whether more passes are preferred. -/
structure Count where
  least : Nat
  most : Option Nat
  greedy : Bool
  deriving Repr, DecidableEq

def maxPasses : Nat := 4294967295

/-- Reads decimal digits, between which verbose mode allows layout. -/
def readDigits (verbose : Bool) : (fuel : Nat) → (value : Option Nat) → List Char →
    Reading (Option Nat)
  | 0, value, text => (value, text)
  | fuel + 1, value, text =>
    match text with
    | c :: rest =>
      if c.isDigit then
        readDigits verbose fuel (some (value.getD 0 * 10 + (c.toNat - '0'.toNat)))
          (skip verbose rest)
      else (value, text)
    | [] => (value, [])

/-- Reads a number with blanks around it.  What is wrong with it is told only when it is used. -/
def readNumber (verbose : Bool) (text : List Char) : Reading (Except Fault Nat) :=
  let text := text.dropWhile Text.isBlank
  let (value, rest) := readDigits verbose (text.length + 1) none text
  let number := match value with
    | none => .error .countEmpty
    | some n => if n ≤ maxPasses then .ok n else .error .decimalInvalid
  (number, rest.dropWhile Text.isBlank)

def readBounds (verbose : Bool) (text : List Char) :
    Except Fault (Reading (Nat × Option Nat)) :=
  match skip verbose text with
  | [] => .error .countUnclosed
  | text =>
    match readNumber verbose text with
    | (_, []) => .error .countUnclosed
    | (least, ',' :: rest) =>
      match skip verbose rest with
      | [] => .error .countUnclosed
      | '\x7d' :: rest => do .ok ((← least, none), '\x7d' :: rest)
      | rest => do
        let least ← least
        let (most, rest) := readNumber verbose rest
        .ok ((least, some (← most)), rest)
    | (count, rest) => do
      let count ← count
      .ok ((count, some count), rest)

def readCount (verbose : Bool) (text : List Char) : Except Fault (Reading Count) := do
  match ← readBounds verbose text with
  | ((least, most), '\x7d' :: rest) =>
    let (greedy, rest) := match skip verbose rest with
      | '?' :: rest => (false, rest)
      | rest => (true, rest)
    if most.all (least ≤ ·) then .ok (⟨least, most, greedy⟩, rest) else .error .countRangeInvalid
  | _ => .error .countUnclosed

/-- The bounds that one character stands for. -/
def boundsOfSign? : Char → Option (Nat × Option Nat)
  | '?' => some (0, some 1)
  | '*' => some (0, none)
  | '+' => some (1, none)
  | _ => none

/-- Reads the question mark that may follow a sign. -/
def readLazy : List Char → Reading Bool
  | '?' :: rest => (true, rest)
  | rest => (false, rest)

end Reader
end Pattern
end LogView
