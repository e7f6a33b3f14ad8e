import RecordQuery.Time.Calendar

/-!
# Instants

An instant counts seconds from 1970-01-01T00:00:00Z and nanoseconds within the second. A leap
second shares the count of the second before it and has nanoseconds from a thousand million up. It
may follow any second; only one that ends a minute has a text of its own.

* `Instant`, in the years from -262143 to 262142;
* `Instant.compare`, the chronological order;
* `Instant.ofEpochMillis?`, the instant of a count of milliseconds.
-/

namespace RecordQuery

/-- A point in time with nanoseconds. -/
structure Instant where
  seconds : Int
  nanos : Nat
  seconds_mem : -8334601228800 ≤ seconds ∧ seconds ≤ 8210266876799
  nanos_lt : nanos < 2000000000
  deriving DecidableEq

namespace Instant

/-- The instant with the given seconds and nanoseconds, if there is one. -/
def ofParts? (seconds : Int) (nanos : Nat) : Option Instant :=
  if h : -8334601228800 ≤ seconds ∧ seconds ≤ 8210266876799 then
    if h' : nanos < 2000000000 then some ⟨seconds, nanos, h, h'⟩ else none
  else none

@[simp] theorem ofParts?_self (t : Instant) : ofParts? t.seconds t.nanos = some t := by
  simp [ofParts?, t.seconds_mem, t.nanos_lt]

/-- 1970-01-01T00:00:00Z. -/
def epoch : Instant :=
  ⟨0, 0, by decide, by decide⟩

/-- The instant of a count of milliseconds from 1970-01-01T00:00:00Z. -/
def ofEpochMillis? (ms : Int) : Option Instant :=
  ofParts? (ms / 1000) (ms % 1000 * 1000000).toNat

/-- The chronological order, a leap second after the second whose count it shares. -/
def compare (a b : Instant) : Ordering :=
  (Ord.compare a.seconds b.seconds).then (Ord.compare a.nanos b.nanos)

/-- The date in universal time. -/
def date (t : Instant) : Date :=
  Date.ofDayNumber (t.seconds / 86400)

/-- The seconds since midnight in universal time. -/
def secondOfDay (t : Instant) : Nat :=
  (t.seconds % 86400).toNat

end Instant

end RecordQuery
