import RecordQuery.Text.Digits
import RecordQuery.Time.Instant

/-!
# RFC 3339 timestamps

* `Instant.render`, the text of an instant in universal time with the fewest of 0, 3, 6 or 9
  fraction digits that are exact;
* `Instant.readStrict`, the instant that an RFC 3339 text with any offset names;
* `InstantFault`, why a text names none.
-/

namespace RecordQuery

open Text

/-- Why a text names no instant. -/
inductive InstantFault
  | premature
  | invalid
  | outOfRange
  | trailing
  deriving DecidableEq

/-- The wording of a fault. -/
def InstantFault.message : InstantFault → String
  | .premature => "premature end of input"
  | .invalid => "input contains invalid characters"
  | .outOfRange => "input is out of range"
  | .trailing => "trailing input"

namespace Instant

/-- A year from 0 to 9999 in four digits, any other with its sign and at least four. -/
def renderYear (year : Int) : List Char :=
  if 0 ≤ year ∧ year ≤ 9999 then decimalPadded 4 year.natAbs
  else (if year < 0 then '-' else '+') :: decimalPadded 4 year.natAbs

/-- The fraction of a second in the fewest of 0, 3, 6 or 9 digits that are exact. -/
def renderFraction (nanos : Nat) : List Char :=
  if nanos = 0 then []
  else if nanos % 1000000 = 0 then '.' :: decimalPadded 3 (nanos / 1000000)
  else if nanos % 1000 = 0 then '.' :: decimalPadded 6 (nanos / 1000)
  else '.' :: decimalPadded 9 nanos

/-- The text in universal time. A leap second is written as the second after the one whose count it
shares, which is second 60 at the end of a minute. -/
def render (t : Instant) : List Char :=
  let d := t.date
  let s := t.secondOfDay
  renderYear d.year ++ '-' :: decimalPadded 2 d.month ++ '-' :: decimalPadded 2 d.day ++
    'T' :: decimalPadded 2 (s / 3600) ++ ':' :: decimalPadded 2 (s / 60 % 60) ++
    ':' :: decimalPadded 2 (s % 60 + t.nanos / 1000000000) ++
    renderFraction (t.nanos % 1000000000) ++ ['Z']

/-- The date and the time of day that a text names, before they are put together. -/
structure Local where
  date : Date
  hour : Nat
  minute : Nat
  second : Nat
  nanos : Nat

namespace Local

/-- The time of day exists; second 60 may end any minute. -/
def timeIsValid (l : Local) : Bool :=
  l.hour < 24 && l.minute < 60 && l.second ≤ 60

/-- The instant at an offset in minutes east of universal time. Second 60 is the leap second after
second 59. -/
def toInstant? (l : Local) (offset : Int) : Option Instant :=
  let second := min l.second 59
  let seconds := l.date.dayNumber * 86400 + (l.hour * 3600 + l.minute * 60 + second : Nat)
  ofParts? (seconds - offset * 60) (l.nanos + (l.second - second) * 1000000000)

end Local

/-- The value of exactly `n` digits at the front, and the rest. -/
def readDigits : Nat → List Char → Except InstantFault (Nat × List Char)
  | 0, cs => .ok (0, cs)
  | n + 1, cs =>
    match cs with
    | [] => .error .premature
    | c :: rest =>
      match digitValue? c with
      | none => .error .invalid
      | some d => do
        let (v, rest) ← readDigits n rest
        return (d * Nat.pow 10 n + v, rest)

/-- The rest after one of the given characters. -/
def skipOneOf (allowed : List Char) : List Char → Except InstantFault (List Char)
  | [] => .error .premature
  | c :: rest => if c ∈ allowed then .ok rest else .error .invalid

/-- The nanoseconds that fraction digits name; digits after the ninth are dropped. -/
def fractionNanos (digits : List Char) : Nat :=
  ofDigits (digits.take 9 ++ List.replicate (9 - digits.length) '0')

/-- An optional point with at least one fraction digit. -/
def readFraction : List Char → Except InstantFault (Nat × List Char)
  | '.' :: cs =>
    let digits := cs.takeWhile Char.isDigit
    if cs.isEmpty then .error .premature
    else if digits.isEmpty then .error .invalid
    else .ok (fractionNanos digits, cs.dropWhile Char.isDigit)
  | cs => .ok (0, cs)

/-- Two digits, when at least two bytes are left. -/
def readPair (cs : List Char) : Except InstantFault (Nat × List Char) :=
  if utf8Length cs < 2 then .error .premature else readDigits 2 cs

/-- A signed offset in minutes, with the given reader between hours and minutes. Minutes from 60 to
99 are out of range. -/
def readSignedOffset (between : List Char → Except InstantFault (List Char)) :
    List Char → Except InstantFault (Int × List Char)
  | [] => .error .premature
  | sign :: cs =>
    if sign ≠ '+' ∧ sign ≠ '-' ∧ sign ≠ '\u2212' then .error .invalid
    else do
      let (hours, cs) ← readPair cs
      let (minutes, cs) ← readPair (← between cs)
      if 60 ≤ minutes then .error .outOfRange
      let offset : Int := hours * 60 + minutes
      return (if sign = '+' then offset else -offset, cs)

/-- The letter `Z` in either case, or a signed offset. -/
def readOffset (between : List Char → Except InstantFault (List Char)) :
    List Char → Except InstantFault (Int × List Char)
  | 'Z' :: cs => .ok (0, cs)
  | 'z' :: cs => .ok (0, cs)
  | cs => readSignedOffset between cs

/-- The instant at an offset of less than a day. -/
def atOffset (l : Local) (offset : Int) : Except InstantFault Instant :=
  if 1440 ≤ offset.natAbs then .error .outOfRange
  else
    match l.toInstant? offset with
    | some t => .ok t
    | none => .error .outOfRange

/-- Reads `YYYY-MM-DD`, a separator, `HH:MM:SS` with an optional fraction, and an offset. The date
is checked before the separator, the time of day before the offset, and the offset's size last. -/
def readStrict (cs : List Char) : Except InstantFault Instant := do
  if utf8Length cs < 19 then .error .premature
  let (year, cs) ← readDigits 4 cs
  let cs ← skipOneOf ['-'] cs
  let (month, cs) ← readDigits 2 cs
  let cs ← skipOneOf ['-'] cs
  let (day, cs) ← readDigits 2 cs
  let date : Date := ⟨year, month, day⟩
  if !date.isValid then .error .outOfRange
  let cs ← skipOneOf ['T', 't', ' '] cs
  let (hour, cs) ← readDigits 2 cs
  let cs ← skipOneOf [':'] cs
  let (minute, cs) ← readDigits 2 cs
  let cs ← skipOneOf [':'] cs
  let (second, cs) ← readDigits 2 cs
  let (nanos, cs) ← readFraction cs
  let l : Local := ⟨date, hour, minute, second, nanos⟩
  if !l.timeIsValid then .error .outOfRange
  let (offset, cs) ← readOffset (skipOneOf [':']) cs
  if !cs.isEmpty then .error .trailing
  atOffset l offset

end Instant

end RecordQuery
