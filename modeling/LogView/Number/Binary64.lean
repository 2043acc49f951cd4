/-!
# Binary floating point with 53 bits

A finite value that is not negative is a whole number of at most 53 bits times a power of two,
and no power below `2 ^ -1074`.  A ratio is rounded to the nearest such value, a tie to the one
with the even number, and is out of range from `2 ^ 1024` on.  All of it is exact arithmetic on
natural numbers.
-/

namespace LogView

/-- The value `mantissa * 2 ^ exponent`. -/
structure Binary64 where
  mantissa : Nat
  exponent : Int
  deriving Repr, DecidableEq, Inhabited

namespace Binary64

def zero : Binary64 := ⟨0, 0⟩

/-- The quotient rounded to the nearest natural number, a tie to the even one. -/
def divideEven (num den : Nat) : Nat :=
  let quotient := num / den
  let twice := 2 * (num % den)
  if twice < den || (twice == den && quotient % 2 == 0) then quotient else quotient + 1

def scale (num den : Nat) (power : Int) : Nat × Nat :=
  if 0 ≤ power then (num <<< power.toNat, den) else (num, den <<< (-power).toNat)

/-- The greatest power of two that is not above a ratio of positive numbers. -/
def logRatio (num den : Nat) : Int :=
  let guess : Int := (num.log2 : Int) - (den.log2 : Int)
  let (a, b) := scale num den (-guess)
  if a < b then guess - 1 else guess

/-- The least number of 53 bits. -/
def leastLong : Nat := 0x10000000000000

/-- The value nearest to a ratio, or nothing beyond the range. -/
def ofRatio? (num den : Nat) : Option Binary64 :=
  if num = 0 then some zero
  else
    let exponent := max (logRatio num den - 52) (-1074)
    let (a, b) := scale num den (-exponent)
    let rounded := divideEven a b
    let value : Binary64 :=
      if rounded = 2 * leastLong then ⟨leastLong, exponent + 1⟩ else ⟨rounded, exponent⟩
    if value.exponent ≤ 971 then some value else none

def ratio (value : Binary64) : Nat × Nat := scale value.mantissa 1 value.exponent

/-- The greatest whole number that is not above a value, or above its negative. -/
def floor (negative : Bool) (value : Binary64) : Int :=
  let (num, den) := value.ratio
  if negative then -(((num + den - 1) / den : Nat) : Int) else ((num / den : Nat) : Int)

end Binary64

end LogView
