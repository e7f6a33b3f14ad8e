import RecordQuery.Text.Digits

/-!
# Integers of 64 bits in texts

* `readInt64`, the integer written by an optional sign and decimal digits;
* `IntegerFault`, the first thing wrong with a text that writes none.
-/

namespace RecordQuery

/-- Why a text writes no integer of 64 bits. -/
inductive IntegerFault
  | empty
  | digit
  | tooLarge
  | tooSmall
  deriving DecidableEq

/-- The wording of a fault. -/
def IntegerFault.message : IntegerFault → String
  | .empty => "cannot parse integer from empty string"
  | .digit => "invalid digit found in string"
  | .tooLarge => "number too large to fit in target type"
  | .tooSmall => "number too small to fit in target type"

namespace Text

/-- Appends digits to a number, downwards if the number is negative, and stops at the first
character that is no digit or leads out of 64 bits. -/
def appendDigits (negative : Bool) (n : Int) : List Char → Except IntegerFault Int
  | [] => .ok n
  | c :: cs =>
    match digitValue? c with
    | none => .error .digit
    | some d =>
      let n' := if negative then 10 * n - d else 10 * n + d
      if n' < Int64.minValue.toInt then .error .tooSmall
      else if Int64.maxValue.toInt < n' then .error .tooLarge
      else appendDigits negative n' cs

/-- The integer that an optional sign and at least one digit write. -/
def readInt64 : List Char → Except IntegerFault Int64
  | [] => .error .empty
  | '-' :: cs => magnitude true cs
  | '+' :: cs => magnitude false cs
  | cs => magnitude false cs
where
  /-- The digits after the sign. -/
  magnitude (negative : Bool) (cs : List Char) : Except IntegerFault Int64 :=
    if cs.isEmpty then .error .digit else (appendDigits negative 0 cs).map Int64.ofInt

end Text

end RecordQuery
