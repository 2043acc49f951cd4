import LogView.Number.Typed

/-!
# Shortest decimals

A binary value is written with the fewest decimal digits that read back as it, and of those with
the digits nearest to it.  For each number of digits, only the two decimals on either side of the
value can read back if any does.
-/

namespace LogView

/-- A decimal that is not negative: `digits * 10 ^ exponent`. -/
structure Places where
  digits : Nat
  exponent : Int
  deriving Repr, DecidableEq

namespace Binary64

/-- The numbers that are read as a value: they lie between two bounds, in units of `den`. -/
structure Reach where
  low : Nat
  value : Nat
  high : Nat
  den : Nat
  /-- Whether the bounds themselves are read as the value. -/
  closed : Bool
  deriving Repr, DecidableEq

/-- The reach of a value: half way to its neighbours, of which the lower one may be nearer. -/
def reach (value : Binary64) : Reach :=
  let (num, den) := scale 1 1 (value.exponent - 2)
  let below := if value.mantissa = leastLong && -1074 < value.exponent then 1 else 2
  ⟨(4 * value.mantissa - below) * num, 4 * value.mantissa * num, (4 * value.mantissa + 2) * num,
    den, value.mantissa % 2 == 0⟩

def scaleTen (num den : Nat) (power : Int) : Nat × Nat :=
  if 0 ≤ power then (num * Nat.pow 10 power.toNat, den)
  else (num, den * Nat.pow 10 (-power).toNat)

/-- The greatest power of ten that is not above a ratio of positive numbers. -/
def logTenRatio (num den : Nat) : Int :=
  let guess : Int := (Decimal.size num : Int) - (Decimal.size den : Int)
  let (a, b) := scaleTen num den (-guess)
  if a < b then guess - 1 else guess

/-- Whether a multiple of a power of ten is read as the value. -/
def Reach.holds (reach : Reach) (places : Places) : Bool :=
  let (a, b) := scaleTen places.digits 1 places.exponent
  let here := a * reach.den
  if reach.closed then reach.low * b ≤ here && here ≤ reach.high * b
  else reach.low * b < here && here < reach.high * b

/-- The decimal with a given last place that is read as the value and nearest to it. -/
def Reach.nearest? (reach : Reach) (exponent : Int) : Option Places :=
  let (a, b) := scaleTen reach.value reach.den (-exponent)
  let lower : Places := ⟨a / b, exponent⟩
  let upper : Places := ⟨a / b + 1, exponent⟩
  match reach.holds lower, reach.holds upper with
  | true, true => some (if divideEven a b = lower.digits then lower else upper)
  | true, false => some lower
  | false, true => some upper
  | false, false => none

/-- The nearest decimal with the fewest digits, trying at most `steps` last places from one on. -/
def Reach.shortest (reach : Reach) : (steps : Nat) → (exponent : Int) → Places
  | 0, exponent => ⟨0, exponent⟩
  | steps + 1, exponent =>
    match reach.nearest? exponent with
    | some places => places
    | none => shortest reach steps (exponent - 1)

def shortest (value : Binary64) : Places :=
  if value.mantissa = 0 then ⟨0, 0⟩
  else
    let reach := value.reach
    reach.shortest 20 (logTenRatio reach.value reach.den)

end Binary64

namespace Places

/-- Zeros at the end of digits, given last digit first, move to the exponent. -/
def trimZeros (exponent : Int) : List Char → List Char × Int
  | '0' :: rest => trimZeros (exponent + 1) rest
  | digits => (digits.reverse, exponent)

/-- The digits up to the last that is not zero, and the place of that one. -/
def significant (places : Places) : List Char × Int :=
  if places.digits = 0 then (['0'], 0)
  else trimZeros places.exponent (Nat.toDigits 10 places.digits).reverse

/-- Written out in full, with at least one digit after the point. -/
def positional (places : Places) : String :=
  let (digits, exponent) := places.significant
  let width := exponent + digits.length
  String.ofList <|
    if 0 ≤ exponent then digits ++ List.replicate exponent.toNat '0' ++ ['.', '0']
    else if 0 < width then digits.take width.toNat ++ '.' :: digits.drop width.toNat
    else ['0', '.'] ++ List.replicate (-width).toNat '0' ++ digits

/-- Written out in full from `10 ^ -5` up to `10 ^ 16`, and else with an exponent. -/
def compact (places : Places) : String :=
  let (digits, exponent) := places.significant
  let power := exponent + digits.length - 1
  if -5 ≤ power && power < 16 then places.positional
  else
    let fraction := if digits.length = 1 then [] else '.' :: digits.drop 1
    String.ofList (digits.take 1 ++ fraction ++ ['e']) ++ toString power

end Places

/-- A binary value with a sign, or what lies beyond the range. -/
inductive Real64 where
  | finite (negative : Bool) (value : Binary64)
  | infinite (negative : Bool)
  | undefined
  deriving Repr, DecidableEq, Inhabited

namespace Real64

def ofDecimal (number : Decimal) : Real64 :=
  match number.toBinary64? with
  | some value => .finite number.negative value
  | none => .infinite number.negative

def signed (negative : Bool) (text : String) : String :=
  if negative then "-" ++ text else text

/-- A value as text, finite values in a given layout. -/
def text (layout : Places → String) : Real64 → String
  | .finite negative value => signed negative (layout value.shortest)
  | .infinite negative => signed negative "inf"
  | .undefined => "NaN"

end Real64

end LogView
