import RecordQuery.Binary64.Basic

/-!
# Rounding to binary64

Every conversion rounds an exact quotient of natural numbers once, to the nearest magnitude, and a
tie goes to the even one.

* `roundHalfEven`, the nearest natural number to a quotient;
* `nearest`, the magnitude nearest to a quotient counted in units of `2 ^ -1074`;
* `ofInt`, `ofDecimal` and `ofBinary32`, the numbers nearest to an integer, to a decimal fraction
  and to a number of the format with 32 bits;
* `mul` and `div`, the rounded product and quotient of magnitudes.
-/

namespace RecordQuery

/-- The natural number nearest to `n / d`; of two equally near the even one. -/
def roundHalfEven (n d : Nat) : Nat :=
  if 2 * (n % d) < d then n / d
  else if d < 2 * (n % d) then n / d + 1
  else n / d + n / d % 2

namespace Binary64

/-- The units in the number one. -/
def one : Nat := 1 <<< 1074

/-- The magnitude nearest to `n / d` units. With `k` the number of binary digits beyond 53, the
rounded significand is added to `k` exponent steps, so that a carry moves on to the next binade. -/
def nearest (n d : Nat) : Nat :=
  let k := (n / d).log2 - 52
  min infinity (k * binade + roundHalfEven n (d <<< k))

/-- The magnitude nearest to a natural number. -/
def ofNat (n : Nat) : Nat :=
  nearest (n * one) 1

/-- The number nearest to an integer. -/
def ofInt (n : Int) : Binary64 :=
  ofMagnitude (n < 0) (ofNat n.natAbs)

/-- The number of decimal digits, at least one. -/
def digitCount (n : Nat) : Nat :=
  (Nat.toDigits 10 n).length

/-- The magnitude nearest to `significand * 10 ^ exponent`. A value above all finite numbers or
below half the least positive one is told from its leading digit's place alone, so no power
larger than the significand calls for is computed. -/
def ofDecimal (significand : Nat) (exponent : Int) : Nat :=
  let place := digitCount significand + exponent
  if significand = 0 || place < -330 then 0
  else if 310 < place then infinity
  else nearest (significand * Nat.pow 10 exponent.toNat * one) (Nat.pow 10 (-exponent).toNat)

/-- The magnitude nearest to the product of two finite magnitudes. -/
def mul (a b : Nat) : Nat :=
  nearest (units a * units b) one

/-- The magnitude nearest to the quotient of two finite magnitudes. -/
def div (a b : Nat) : Nat :=
  nearest (units a * one) (units b)

/-- The number with the value of a binary32 number, which is always exact. A NaN keeps its payload
and becomes quiet. -/
def ofBinary32 (bits : UInt32) : Binary64 :=
  let b := bits.toNat % 0x80000000
  let fraction := b % 0x800000
  let magnitude :=
    if b < 0x800000 then nearest (b <<< 925) 1
    else if b < 0x7F800000 then nearest ((0x800000 + fraction) <<< (b / 0x800000 + 924)) 1
    else if b = 0x7F800000 then infinity
    else infinity + 0x8000000000000 + (fraction % 0x400000) <<< 29
  ofMagnitude (0x80000000 ≤ bits.toNat) magnitude

end Binary64

end RecordQuery
