/-
# Doubles

The finite binary numbers with 53 bits and exponents from -1074 to 971. A fraction is rounded to
the nearest double, and to the even mantissa when it lies halfway between two. A double is
written with the fewest decimal digits from which it is read back.

## Main definitions

* `Double.ofDecimal?`: the nearest double to a decimal, unless that is too large;
* `Double.shortest`: the decimal with the fewest digits that reads back.
-/
import SandboxPreview.Text.Basic

namespace SandboxPreview

/-- The number `mantissa * 2 ^ exponent`, or its opposite when negative. Zero has a sign. -/
structure Double where
  negative : Bool
  mantissa : Nat
  exponent : Int
  deriving DecidableEq

namespace Double

/-- The fraction `num / den` times a power of `base`, as a fraction. -/
def scale (base : Nat) (power : Int) (num den : Nat) : Nat × Nat :=
  match power with
  | .ofNat p => (num * base.pow p, den)
  | .negSucc p => (num, den * base.pow (p + 1))

/-- The natural number nearest to a fraction; halfway between two, the even one. -/
def roundHalfEven (num den : Nat) : Nat :=
  let low := num / den
  let twice := 2 * (num % den)
  if twice < den ∨ (twice = den ∧ low % 2 = 0) then low else low + 1

/-- The number of bits of a mantissa. -/
def precision : Nat := 53

/-- The least exponent. -/
def leastExponent : Int := -1074

/-- The greatest exponent. -/
def greatestExponent : Int := 971

/-- The power of two that a fraction lies at or above, and below the next one. -/
def binaryOrder (num den : Nat) : Int :=
  -- The orders of the two parts tell that of the fraction up to one.
  let order : Int := (Nat.log2 num : Int) - Nat.log2 den
  let (n, d) := scale 2 (-order) num den
  if n < d then order - 1 else order

/-- Mantissa and exponent of the double nearest to a fraction, unless it is too large. -/
def nearest? (num den : Nat) : Option (Nat × Int) :=
  if num = 0 then some (0, leastExponent)
  else
    let exponent := max leastExponent (binaryOrder num den - (precision - 1))
    let (n, d) := scale 2 (-exponent) num den
    let mantissa := roundHalfEven n d
    let (mantissa, exponent) :=
      -- Rounding up may reach the next power of two, which has one bit more.
      if mantissa = Nat.pow 2 precision then (Nat.pow 2 (precision - 1), exponent + 1)
      else (mantissa, exponent)
    if exponent ≤ greatestExponent then some (mantissa, exponent) else none

/-- The double nearest to `mantissa * 10 ^ exponent`, or to its opposite when negative; none when
it is too large. Exponents that are far out of range are decided without computing the power. -/
def ofDecimal? (negative : Bool) (mantissa : Nat) (exponent : Int) : Option Double :=
  if mantissa = 0 ∨ exponent < -400 - (Nat.log2 mantissa : Int) then
    some ⟨negative, 0, leastExponent⟩
  else if 400 < exponent then none
  else
    let (num, den) := scale 10 exponent mantissa 1
    (nearest? num den).map fun (mantissa, exponent) => ⟨negative, mantissa, exponent⟩

/-- The size of a double as a fraction. -/
def size (d : Double) : Nat × Nat := scale 2 d.exponent d.mantissa 1

/-- The mantissa with the sign. -/
def factor (d : Double) : Int := if d.negative then -(d.mantissa : Int) else d.mantissa

/-- The double is zero. -/
def isZero (d : Double) : Bool := d.mantissa == 0

/-- The integer that a double is, unless it has a fractional part. -/
def toInt? (d : Double) : Option Int :=
  let (num, den) := d.size
  if num % den = 0 then some (if d.negative then -((num / den : Nat) : Int) else (num / den : Nat))
  else none

/-- The number of decimal digits of a natural number. -/
def digitCount (n : Nat) : Nat := (Nat.toDigits 10 n).length

/-- The place of the decimal point of a positive fraction, counted from its first digit that is
not zero. -/
def pointPlace (num den : Nat) : Int :=
  if den ≤ num then digitCount (num / den) else 1 - (digitCount ((den - 1) / num) : Int)

/-- The decimal with the given count of digits that is nearest to a double, if one with that
count reads back. -/
def withDigits? (d : Double) (count : Nat) : Option (Nat × Int) :=
  let (num, den) := d.size
  let exponent := pointPlace num den - count
  let (n, m) := scale 10 (-exponent) num den
  let low := n / m
  -- Only the two decimals next to the double can be the nearest of their length.
  let readsBack (digits : Nat) : Bool := ofDecimal? d.negative digits exponent == some d
  match readsBack low, readsBack (low + 1) with
  | true, true => some (roundHalfEven n m, exponent)
  | true, false => some (low, exponent)
  | false, true => some (low + 1, exponent)
  | false, false => none

/-- The decimal `digits * 10 ^ exponent` with the fewest digits that reads back as the size of a
double; of several the nearest. Seventeen digits are always enough. -/
def shortest (d : Double) : Nat × Int :=
  ((List.range 17).findSome? fun n => d.withDigits? (n + 1)).getD (0, 0)

end Double

end SandboxPreview
