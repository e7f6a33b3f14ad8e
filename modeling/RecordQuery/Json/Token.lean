import RecordQuery.Json.Numeral

/-!
# Tokens of JSON texts

* `Token`, a bracket, a separator, a literal, a number, a string, or a `fault` where no token can be
  read;
* `Token.scan?`, the token at the front of a text and the rest;
* `Token.ofText`, the tokens of a text, of which at most the last is a fault.
-/

namespace RecordQuery

/-- A token of a JSON text. -/
inductive Token
  | openArray
  | closeArray
  | openObject
  | closeObject
  | comma
  | colon
  | null
  | bool (b : Bool)
  /-- A number, absent where it is beyond the finite numbers. -/
  | number (n : Option Numeral)
  /-- A string, absent where an escape names half of a surrogate pair. -/
  | string (s : Option String)
  | fault

namespace Token

/-- Blanks between tokens. -/
def isBlank (c : Char) : Bool :=
  c == ' ' || c == '\t' || c == '\n' || c == '\r'

/-- The number of four hexadecimal digits. -/
def hexUnit? (a b c d : Char) : Option Nat := do
  let a ← Text.hexValue? a
  let b ← Text.hexValue? b
  let c ← Text.hexValue? c
  let d ← Text.hexValue? d
  return ((a * 16 + b) * 16 + c) * 16 + d

/-- The character of an escape of one letter. -/
def simpleEscape? : Char → Option Char
  | '"' => some '"'
  | '\\' => some '\\'
  | '/' => some '/'
  | 'b' => some '\x08'
  | 'f' => some '\x0c'
  | 'n' => some '\n'
  | 'r' => some '\r'
  | 't' => some '\t'
  | _ => none

/-- What is between the quotes of a string: characters, and 16-bit units written by number. -/
inductive Piece
  | char (c : Char)
  | unit (n : Nat)

/-- The pieces of a string up to its closing quote, and the rest. Control characters and unknown
escapes are faults. -/
def scanPieces? : List Char → Option (List Piece × List Char)
  | '"' :: cs => some ([], cs)
  | '\\' :: 'u' :: a :: b :: c :: d :: cs => do
    let n ← hexUnit? a b c d
    let (ps, rest) ← scanPieces? cs
    return (.unit n :: ps, rest)
  | '\\' :: e :: cs => do
    let c ← simpleEscape? e
    let (ps, rest) ← scanPieces? cs
    return (.char c :: ps, rest)
  | c :: cs => do
    if c.toNat < 0x20 ∨ c = '\\' then none
    let (ps, rest) ← scanPieces? cs
    return (.char c :: ps, rest)
  | [] => none

/-- The characters that pieces stand for. A unit from `0xD800` up to `0xDBFF` needs one from
`0xDC00` up to `0xDFFF` behind it, and neither stands alone. -/
def joinPieces? : List Piece → Option (List Char)
  | [] => some []
  | .char c :: ps => (joinPieces? ps).map (c :: ·)
  | .unit n :: ps =>
    if 0xD800 ≤ n ∧ n ≤ 0xDBFF then
      match ps with
      | .unit m :: ps =>
        if 0xDC00 ≤ m ∧ m ≤ 0xDFFF then
          (joinPieces? ps).map (Char.ofNat (0x10000 + (n - 0xD800) * 0x400 + (m - 0xDC00)) :: ·)
        else none
      | _ => none
    else if 0xDC00 ≤ n ∧ n ≤ 0xDFFF then none
    else (joinPieces? ps).map (Char.ofNat n :: ·)

/-- The rest after a word at the front. -/
def afterWord? (word cs : List Char) : Option (List Char) :=
  if word.isPrefixOf cs then some (cs.drop word.length) else none

/-- The token that starts with the given character, and the rest. -/
def scan? : Char → List Char → Option (Token × List Char)
  | '[', cs => some (.openArray, cs)
  | ']', cs => some (.closeArray, cs)
  | '{', cs => some (.openObject, cs)
  | '}', cs => some (.closeObject, cs)
  | ',', cs => some (.comma, cs)
  | ':', cs => some (.colon, cs)
  | 'n', cs => (afterWord? ['u', 'l', 'l'] cs).map fun rest => (.null, rest)
  | 't', cs => (afterWord? ['r', 'u', 'e'] cs).map fun rest => (.bool true, rest)
  | 'f', cs => (afterWord? ['a', 'l', 's', 'e'] cs).map fun rest => (.bool false, rest)
  | '"', cs => (scanPieces? cs).map fun (ps, rest) =>
    (.string ((joinPieces? ps).map String.ofList), rest)
  | c, cs => (Numeral.scan? (c :: cs)).map fun (n, rest) => (.number n, rest)

/-- The tokens of the first `fuel` tokens and blanks. -/
def ofChars : Nat → List Char → List Token
  | _, [] => []
  | 0, _ => []
  | fuel + 1, c :: cs =>
    if isBlank c then ofChars fuel cs
    else
      match scan? c cs with
      | some (t, rest) => t :: ofChars fuel rest
      | none => [.fault]

/-- The tokens of a text. Each token and each blank takes at least one character. -/
def ofText (text : String) : List Token :=
  ofChars text.toList.length text.toList

end Token

end RecordQuery
