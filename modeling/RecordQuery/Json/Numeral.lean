import RecordQuery.Binary64.Text

/-!
# JSON numbers

A number without fraction and exponent that fits 64 bits, with or without a sign, is an integer;
every other number, and `-0`, is a binary64 number.

* `Numeral`, an integer or a binary64 number;
* `Numeral.render`, its JSON text;
* `Numeral.scan?`, the number at the front of a text.

The reading of a binary64 number rounds three times rather than once: the digits are gathered while
the number they write stays below `2 ^ 64`, that number is rounded, and it is multiplied or divided
by the rounded power of ten that remains.
-/

namespace RecordQuery

/-- A JSON number. -/
inductive Numeral
  | integer (n : Int)
  | float (x : Binary64)
  deriving DecidableEq, Inhabited

namespace Numeral

/-- The integers that a numeral can keep: those of 64 bits with a sign and those without. -/
def fitsInteger (n : Int) : Bool :=
  Int64.minValue.toInt ≤ n && n < UInt64.size

/-- What reading can give: an integer of 64 bits or a finite number. -/
def isCanonical : Numeral → Bool
  | .integer n => fitsInteger n
  | .float x => x.isFinite

/-- The JSON text. -/
def render : Numeral → List Char
  | .integer n => if n < 0 then '-' :: Text.decimal n.natAbs else Text.decimal n.natAbs
  | .float x => x.render

/-- The digits of a number as far as they are gathered, and the power of ten that is left. -/
structure Gathered where
  significand : Nat
  exponent : Int

/-- Appends a digit to a number that stays below `2 ^ 64`. -/
def appendDigit? (n : Nat) (c : Char) : Option Nat :=
  let n' := 10 * n + (c.toNat - '0'.toNat)
  if n' < UInt64.size then some n' else none

/-- Gathers whole digits; each one from the first that does not fit raises the exponent. -/
def gatherWhole (n : Nat) : List Char → Gathered
  | [] => ⟨n, 0⟩
  | c :: cs =>
    match appendDigit? n c with
    | some n' => gatherWhole n' cs
    | none => ⟨n, (c :: cs).length⟩

/-- Gathers fraction digits, each of which lowers the exponent, up to the first that does not
fit. -/
def gatherFraction (g : Gathered) : List Char → Gathered
  | [] => g
  | c :: cs =>
    match appendDigit? g.significand c with
    | some n => gatherFraction ⟨n, g.exponent - 1⟩ cs
    | none => g

/-- The rounded power of ten. -/
def powerOfTen (n : Nat) : Nat :=
  Binary64.ofDecimal 1 n

/-- The magnitude divided by a power of ten, in steps of the greatest power that is finite. -/
def divideByPower (m n : Nat) : Nat :=
  if n ≤ 308 then Binary64.div m (powerOfTen n)
  else if m = 0 then 0
  else divideByPower (Binary64.div m (powerOfTen 308)) (n - 308)
termination_by n

/-- The magnitude of gathered digits, unless it is beyond the finite numbers. -/
def Gathered.magnitude? (g : Gathered) : Option Nat :=
  let m := Binary64.ofNat g.significand
  if m = 0 then some 0
  else if g.exponent < 0 then some (divideByPower m g.exponent.natAbs)
  else if 308 < g.exponent then none
  else
    let m' := Binary64.mul m (powerOfTen g.exponent.toNat)
    if m' < Binary64.infinity then some m' else none

/-- The number that a sign, whole digits, fraction digits and an exponent write, unless it is
beyond the finite numbers. -/
def ofParts? (negative : Bool) (whole : List Char) (fraction : Option (List Char))
    (exponent : Option Int) : Option Numeral :=
  let n : Int := if negative then -(Text.ofDigits whole : Int) else Text.ofDigits whole
  if fraction.isNone && exponent.isNone && fitsInteger n && !(negative && n == 0) then
    some (.integer n)
  else
    let g := gatherFraction (gatherWhole 0 whole) (fraction.getD [])
    (Gathered.magnitude? ⟨g.significand, g.exponent + exponent.getD 0⟩).map fun m =>
      .float (Binary64.ofMagnitude negative m)

/-- The decimal digits at the front, of which there has to be one, and the rest. -/
def spanDigits? (cs : List Char) : Option (List Char × List Char) :=
  let digits := cs.takeWhile Char.isDigit
  if digits.isEmpty then none else some (digits, cs.dropWhile Char.isDigit)

/-- The digits before point and exponent, which start with a zero only if they are nothing
else. -/
def scanWhole? (cs : List Char) : Option (List Char × List Char) := do
  let (digits, rest) ← spanDigits? cs
  if digits.head? = some '0' ∧ digits ≠ ['0'] then none
  return (digits, rest)

/-- An optional point and the digits it needs. -/
def scanFraction? : List Char → Option (Option (List Char) × List Char)
  | '.' :: cs => (spanDigits? cs).map fun (digits, rest) => (some digits, rest)
  | cs => some (none, cs)

/-- An optional exponent mark, sign, and the digits it needs. -/
def scanExponent? : List Char → Option (Option Int × List Char)
  | [] => some (none, [])
  | c :: cs =>
    if c = 'e' ∨ c = 'E' then
      let unsigned := fun (cs : List Char) => (spanDigits? cs).map fun (digits, rest) =>
        (Text.ofDigits digits, rest)
      match cs with
      | '-' :: cs => (unsigned cs).map fun (n, rest) => (some (-(n : Int)), rest)
      | '+' :: cs => (unsigned cs).map fun (n, rest) => (some (n : Int), rest)
      | cs => (unsigned cs).map fun (n, rest) => (some (n : Int), rest)
    else some (none, c :: cs)

/-- Reads the numeral at the front of a text. The number is absent where its value is beyond the
finite numbers; the whole result is absent where there is no numeral. -/
def scan? (cs : List Char) : Option (Option Numeral × List Char) := do
  let (negative, cs) := match cs with
    | '-' :: cs => (true, cs)
    | cs => (false, cs)
  let (whole, cs) ← scanWhole? cs
  let (fraction, cs) ← scanFraction? cs
  let (exponent, cs) ← scanExponent? cs
  return (ofParts? negative whole fraction exponent, cs)

end Numeral

end RecordQuery
