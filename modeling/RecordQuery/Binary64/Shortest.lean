import RecordQuery.Binary64.Round

/-!
# The shortest decimal of a binary64 number

The decimal written for a finite number is the one with the fewest digits that rounds back to it;
of those with that many digits it is the nearest to the exact value.

* `Decimal`, digits and a power of ten;
* `Binary64.candidate`, the nearest decimal with a given count of digits that reads back;
* `Binary64.shortest`, the first of them.
-/

namespace RecordQuery

/-- The number `digits * 10 ^ exponent`. -/
structure Decimal where
  digits : Nat
  exponent : Int
  deriving DecidableEq, Inhabited

namespace Decimal

/-- The magnitude nearest to a decimal. -/
def magnitude (d : Decimal) : Nat :=
  Binary64.ofDecimal d.digits d.exponent

/-- The same number with one digit less, where the last digit is a zero. -/
def dropZero (d : Decimal) : Decimal :=
  if d.digits % 10 = 0 then ⟨d.digits / 10, d.exponent + 1⟩ else d

end Decimal

namespace Binary64

/-- The place of the leading digit: a positive finite magnitude is at least `10 ^ (place m - 1)`
and less than `10 ^ place m`. No finite number is below `10 ^ -400`. -/
def place (m : Nat) : Int :=
  (digitCount (units m * Nat.pow 10 400 / one) : Int) - 400

/-- Of the two decimals with `n` digits around a magnitude those that read back, and of two such
the nearer; a tie goes to the even digit. -/
def candidate (m n : Nat) : Option Decimal :=
  let exponent := place m - n
  let num := units m * Nat.pow 10 (-exponent).toNat
  let den := one * Nat.pow 10 exponent.toNat
  let below : Decimal := ⟨num / den, exponent⟩
  let above : Decimal := ⟨num / den + 1, exponent⟩
  match decide (below.magnitude = m), decide (above.magnitude = m) with
  | true, true => if roundHalfEven num den = below.digits then some below else some above.dropZero
  | true, false => some below
  | false, true => some above.dropZero
  | false, false => none

/-- The shortest decimal that reads back as a positive finite magnitude. Seventeen digits always
do. -/
def shortest (m : Nat) : Decimal :=
  ((List.range 17).findSome? fun n => candidate m (n + 1)).getD ⟨0, 0⟩

end Binary64

end RecordQuery
