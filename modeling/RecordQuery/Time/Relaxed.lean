import RecordQuery.Text.Blank
import RecordQuery.Time.Rfc3339

/-!
# Relaxed timestamps

`Instant.readRelaxed` accepts what `Instant.readStrict` accepts and also blanks before numbers and
around separators, parts with fewer digits, years with a sign and any number of digits, and `UTC`
as an offset. Each part is checked against its own bounds as soon as it is read.
-/

namespace RecordQuery.Instant

open Text

/-- One to `max` digits, whose value has to fit 63 bits. -/
def readNumber (max : Nat) (cs : List Char) : Except InstantFault (Nat × List Char) :=
  let digits := (cs.take max).takeWhile Char.isDigit
  let value := ofDigits digits
  if cs.isEmpty then .error .premature
  else if digits.isEmpty then .error .invalid
  else if Int64.maxValue.toInt < value then .error .outOfRange
  else .ok (value, cs.drop digits.length)

/-- A number of at most two digits after blanks, within bounds. -/
def readPart (low high : Nat) (cs : List Char) : Except InstantFault (Nat × List Char) := do
  let (n, cs) ← readNumber 2 (dropBlanks cs)
  if n < low || high < n then .error .outOfRange
  return (n, cs)

/-- Four digits at most, or a sign and any number of digits, for a year of 32 bits. -/
def readYear (cs : List Char) : Except InstantFault (Int × List Char) := do
  let (year, cs) ←
    match dropBlanks cs with
    | '-' :: cs => do
      let (n, cs) ← readNumber cs.length cs
      pure (-(n : Int), cs)
    | '+' :: cs => do
      let (n, cs) ← readNumber cs.length cs
      pure ((n : Int), cs)
    | cs => do
      let (n, cs) ← readNumber 4 cs
      pure ((n : Int), cs)
  if (Int32.ofInt year).toInt ≠ year then .error .outOfRange
  return (year, cs)

/-- `UTC` in any case, or an offset with blanks and colons between hours and minutes. -/
def readRelaxedOffset (cs : List Char) : Except InstantFault (Int × List Char) :=
  if (cs.take 3).map Char.toUpper = ['U', 'T', 'C'] then .ok (0, cs.drop 3)
  else readOffset (fun cs => .ok (cs.dropWhile fun c => c == ':' || isBlank c)) cs

/-- Reads a date, a separator, a time of day and an offset. Whether the date exists is checked
last. -/
def readRelaxed (cs : List Char) : Except InstantFault Instant := do
  let (year, cs) ← readYear cs
  let cs ← skipOneOf ['-'] (dropBlanks cs)
  let (month, cs) ← readPart 1 12 cs
  let cs ← skipOneOf ['-'] (dropBlanks cs)
  let (day, cs) ← readPart 1 31 cs
  let cs ← skipOneOf ['T', 't', ' '] cs
  let (hour, cs) ← readPart 0 23 cs
  let cs ← skipOneOf [':'] (dropBlanks cs)
  let (minute, cs) ← readPart 0 59 cs
  let cs ← skipOneOf [':'] (dropBlanks cs)
  let (second, cs) ← readPart 0 60 cs
  let (nanos, cs) ← readFraction cs
  let (offset, cs) ← readRelaxedOffset (dropBlanks cs)
  if !(dropBlanks cs).isEmpty then .error .trailing
  let date : Date := ⟨year, month, day⟩
  if !date.isValid then .error .outOfRange
  atOffset ⟨date, hour, minute, second, nanos⟩ offset

end RecordQuery.Instant
