import RecordQuery.Binary64.Shortest
import RecordQuery.Text.Digits

/-!
# Decimal texts of binary64 numbers

* `Binary64.render`, the JSON text of a finite number: its shortest decimal, with a point from
  `10 ^ -5` up to below `10 ^ 16` and in scientific notation outside;
* `Binary64.read?`, the number written by a decimal numeral with an optional sign, point and
  exponent.
-/

namespace RecordQuery

namespace Decimal

/-- The decimal digits, most significant first. -/
def digitChars (d : Decimal) : List Char :=
  Text.decimal d.digits

/-- The power of ten of the leading digit. -/
def leading (d : Decimal) : Int :=
  d.digitChars.length - 1 + d.exponent

/-- Positional notation with at least one digit on both sides of the point. -/
def positional (d : Decimal) : List Char :=
  let ds := d.digitChars
  if d.leading < 0 then
    '0' :: '.' :: (List.replicate (-d.leading - 1).toNat '0' ++ ds)
  else
    let whole := d.leading.toNat + 1
    let after := ds.drop whole
    ds.take whole ++ List.replicate (whole - ds.length) '0' ++
      '.' :: if after.isEmpty then ['0'] else after

/-- Scientific notation: a point only before further digits, and an exponent with its sign. -/
def scientific (d : Decimal) : List Char :=
  let sign := if d.leading < 0 then '-' else '+'
  let exponent := sign :: Text.decimal d.leading.natAbs
  match d.digitChars with
  | [] => []
  | [c] => c :: 'e' :: exponent
  | c :: cs => c :: '.' :: (cs ++ 'e' :: exponent)

/-- Positional notation from `10 ^ -5` up to below `10 ^ 16`, scientific notation outside. -/
def render (d : Decimal) : List Char :=
  if -5 ≤ d.leading ∧ d.leading < 16 then d.positional else d.scientific

end Decimal

namespace Binary64

/-- The text of a finite number, whose zeros keep their sign. -/
def render (x : Binary64) : List Char :=
  let text := if x.magnitude = 0 then ['0', '.', '0'] else (shortest x.magnitude).render
  if x.negative then '-' :: text else text

/-- The text of any number: `NaN` without its sign, and `inf` for an infinity. -/
def describe (x : Binary64) : List Char :=
  if x.isFinite then x.render
  else if x.isNaN then ['N', 'a', 'N']
  else if x.negative then ['-', 'i', 'n', 'f'] else ['i', 'n', 'f']

/-- An exponent mark, an optional sign and at least one digit; without a mark the exponent is 0. -/
def readExponent? : List Char → Option Int
  | [] => some 0
  | c :: rest =>
    if c ≠ 'e' ∧ c ≠ 'E' then none
    else
      let (negative, ds) :=
        match rest with
        | '-' :: ds => (true, ds)
        | '+' :: ds => (false, ds)
        | ds => (false, ds)
      if ds.isEmpty || !ds.all Char.isDigit then none
      else some (if negative then -(Text.ofDigits ds : Int) else Text.ofDigits ds)

/-- Digits with an optional point among or around them, at least one digit, then an optional
exponent. -/
def readUnsigned? (cs : List Char) : Option Nat := do
  let whole := cs.takeWhile Char.isDigit
  let rest := cs.dropWhile Char.isDigit
  let (fraction, rest) :=
    match rest with
    | '.' :: r => (r.takeWhile Char.isDigit, r.dropWhile Char.isDigit)
    | r => ([], r)
  if whole.isEmpty && fraction.isEmpty then none
  let exponent ← readExponent? rest
  return ofDecimal (Text.ofDigits (whole ++ fraction)) (exponent - fraction.length)

/-- The number nearest to a decimal numeral. -/
def read? : List Char → Option Binary64
  | '-' :: cs => (readUnsigned? cs).map (ofMagnitude true)
  | '+' :: cs => (readUnsigned? cs).map (ofMagnitude false)
  | cs => (readUnsigned? cs).map (ofMagnitude false)

end Binary64

end RecordQuery
