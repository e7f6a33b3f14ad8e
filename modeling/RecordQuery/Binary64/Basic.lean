/-!
# Binary64 numbers

A number of the interchange format with 64 bits is kept as its bits, so that every NaN payload and
both zeros survive.

* `Binary64`, its `negative` sign and its `magnitude`, the remaining 63 bits read as a number;
* `units`, the count of least positive numbers, `2 ^ -1074`, that a finite magnitude stands for;
* `compare?` and `equal`, the comparison by numeric value, in which a NaN takes no part;
* `compareTotal`, the linear order on all bit patterns.
-/

namespace RecordQuery

/-- A binary64 number: a sign bit, eleven exponent bits and 52 fraction bits. -/
structure Binary64 where
  bits : UInt64
  deriving DecidableEq, Inhabited

namespace Binary64

/-- The magnitude of infinity, above those of the finite numbers and below those of the NaNs. -/
def infinity : Nat := 0x7FF0000000000000

/-- The weight of the sign bit. -/
def signWeight : Nat := 0x8000000000000000

/-- The count of magnitudes in a binade. -/
def binade : Nat := 0x10000000000000

/-- The sign bit. -/
def negative (x : Binary64) : Bool :=
  signWeight ≤ x.bits.toNat

/-- The bits below the sign, which grow with the absolute value. -/
def magnitude (x : Binary64) : Nat :=
  x.bits.toNat % signWeight

/-- The number with the given sign and magnitude. -/
def ofMagnitude (negative : Bool) (m : Nat) : Binary64 :=
  ⟨UInt64.ofNat (if negative then m % signWeight + signWeight else m % signWeight)⟩

/-- Neither an infinity nor a NaN. -/
def isFinite (x : Binary64) : Bool :=
  x.magnitude < infinity

/-- Not a number: above infinity in magnitude. -/
def isNaN (x : Binary64) : Bool :=
  infinity < x.magnitude

/-- How many times the least positive number a finite magnitude holds: the fraction itself in the
lowest two binades, and twice as much from each binade to the next. -/
def units (m : Nat) : Nat :=
  if m < binade then m else (binade + m % binade) <<< (m / binade - 1)

/-- The position between the infinities, where both zeros stand at 0. -/
def rank (x : Binary64) : Int :=
  if x.negative then -(x.magnitude : Int) else x.magnitude

/-- The comparison of numeric values: no NaN is comparable, and the zeros are equal. -/
def compare? (x y : Binary64) : Option Ordering :=
  if x.isNaN || y.isNaN then none else some (compare x.rank y.rank)

/-- Equality of numeric values, in which a NaN differs from itself. -/
def equal (x y : Binary64) : Bool :=
  x.compare? y == some .eq

/-- The position among all bit patterns, from the negative NaNs through the zeros, of which the
negative is below, to the positive NaNs. -/
def totalRank (x : Binary64) : Int :=
  if x.negative then -(x.magnitude : Int) - 1 else x.magnitude

/-- The linear order on all bit patterns. -/
def compareTotal (x y : Binary64) : Ordering :=
  compare x.totalRank y.totalRank

@[simp] theorem compareTotal_self (x : Binary64) : x.compareTotal x = .eq := by
  simp [compareTotal]

theorem compare?_eq_none_iff {x y : Binary64} :
    x.compare? y = none ↔ x.isNaN = true ∨ y.isNaN = true := by
  unfold compare?
  split <;> simp_all

end Binary64

end RecordQuery
