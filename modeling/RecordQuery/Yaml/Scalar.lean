import RecordQuery.Text.Digits

/-!
# Scalars of YAML

* `Yaml.natural?`, the number that a plain scalar writes;
* `Yaml.unescape?`, the text that stands between double quotes.
-/

namespace RecordQuery.Yaml

open Text

/-- The number that digits write in a base, of which there has to be one. -/
def inBase? (base : Nat) (cs : List Char) : Option Nat :=
  if cs.isEmpty then none
  else cs.foldlM (fun n c => do
    let d ← hexValue? c
    if d < base then some (base * n + d) else none) 0

/-- A natural number with an optional plus, in base 16, 8 or 2 after `0x`, `0o` or `0b` and in base
10 without a zero in front of other digits. -/
def natural? (cs : List Char) : Option Nat :=
  match if cs.head? = some '+' then cs.drop 1 else cs with
  | '0' :: 'x' :: cs => inBase? 16 cs
  | '0' :: 'o' :: cs => inBase? 8 cs
  | '0' :: 'b' :: cs => inBase? 2 cs
  | ['0'] => some 0
  | '0' :: _ => none
  | cs => inBase? 10 cs

/-- How many hexadecimal digits follow the letter of an escape. -/
def escapeWidth? : Char → Option Nat
  | 'x' => some 2
  | 'u' => some 4
  | 'U' => some 8
  | _ => none

/-- The character that an escape names by the digits at the front. -/
def escaped? (width : Nat) (cs : List Char) : Option Char := do
  let n ← inBase? 16 (cs.take width)
  if cs.length < width then none
  if n.isValidChar then some (Char.ofNat n) else none

/-- A text in which a backslash starts an escape by number; other escapes are refused. -/
def unescape? : List Char → Option (List Char)
  | [] => some []
  | '\\' :: [] => none
  | '\\' :: letter :: cs => do
    let width ← escapeWidth? letter
    let c ← escaped? width cs
    return c :: (← unescape? (cs.drop width))
  | c :: cs => (unescape? cs).map (c :: ·)
termination_by cs => cs.length
decreasing_by
  · simp only [List.length_cons, List.length_drop]; omega
  · simp only [List.length_cons]; omega

end RecordQuery.Yaml
