import RecordQuery.Yaml.Scalar

/-!
# Lines of YAML

* `isAllowed`, the characters of YAML, and `lines`, the lines of a text;
* `Token`, a word, a quoted word, a separator or a mark of a document, and `Placed`, a token in its
  column;
* `Line`, the tokens of a line, and `Line.ofText?`, which reads them.
-/

namespace RecordQuery.Yaml

/-- The characters that may stand in a text, also in its comments. -/
def isAllowed (c : Char) : Bool :=
  let n := c.toNat
  n == 9 || n == 0xA || n == 0xD || (0x20 ≤ n && n ≤ 0x7E) || n == 0x85 ||
    (0xA0 ≤ n && n ≤ 0xFFFD && n != 0xFEFF) || 0x10000 ≤ n

/-- The characters that end a line. -/
def isBreak (c : Char) : Bool :=
  c == '\n' || c == '\r' || c == '\u0085' || c == '\u2028' || c == '\u2029'

/-- Blanks within a line. -/
def isBlank (c : Char) : Bool :=
  c == ' ' || c == '\t'

/-- The lines of a text. A carriage return and the line feed behind it end one line. -/
def lines : List Char → List (List Char)
  | [] => [[]]
  | '\r' :: '\n' :: cs => [] :: lines cs
  | c :: cs =>
    if isBreak c then [] :: lines cs
    else
      match lines cs with
      | [] => [[c]]
      | line :: rest => (c :: line) :: rest

/-- A blank follows, or nothing. -/
def atGap (cs : List Char) : Bool :=
  cs.head?.all isBlank

/-- A token of a line. -/
inductive Token
  /-- Characters without a blank, a comma or a brace between them. -/
  | word (cs : List Char)
  | quoted (cs : List Char)
  /-- A colon with a blank or nothing behind it. -/
  | colon
  /-- A colon outside of words with something right behind it. -/
  | tightColon
  | comma
  | openBrace
  | closeBrace
  /-- Three dashes in front of a line, which start a document. -/
  | start
  /-- Three points in front of a line, which end a document. -/
  | stop
  deriving DecidableEq

/-- A token and the number of characters before it on its line. -/
structure Placed where
  column : Nat
  token : Token

/-- A line by what stands on it. -/
structure Line where
  /-- The column of the first tab in front of the first token. -/
  tab : Option Nat
  tokens : List Placed
  /-- A comment ends the line. -/
  commented : Bool

/-- The word at the front and the rest. A colon belongs to it where something stands right behind
it. -/
def splitWord : List Char → List Char × List Char
  | [] => ([], [])
  | c :: cs =>
    if isBlank c ∨ c = ',' ∨ c = '{' ∨ c = '}' ∨ (c = ':' ∧ atGap cs) then ([], c :: cs)
    else
      let (front, rest) := splitWord cs
      (c :: front, rest)

/-- The token that starts with the given character, and the rest. Between quotes there is none of
the same kind. -/
def Token.scan? : Char → List Char → Option (Token × List Char)
  | ':', cs => some (if atGap cs then .colon else .tightColon, cs)
  | ',', cs => some (.comma, cs)
  | '{', cs => some (.openBrace, cs)
  | '}', cs => some (.closeBrace, cs)
  | '"', cs =>
    match cs.dropWhile (· != '"') with
    | _ :: rest => (unescape? (cs.takeWhile (· != '"'))).map fun text => (.quoted text, rest)
    | [] => none
  | '\'', cs =>
    match cs.dropWhile (· != '\'') with
    | _ :: rest => some (.quoted (cs.takeWhile (· != '\'')), rest)
    | [] => none
  | c, cs =>
    let (front, rest) := splitWord cs
    some (.word (c :: front), rest)

namespace Line

/-- The tokens that `fuel` steps find in the rest of a line of the given length, and whether a
comment follows them. A number sign starts a comment where a token might start. -/
def scan? (length : Nat) : Nat → List Char → Option (List Placed × Bool)
  | _, [] => some ([], false)
  | 0, _ => none
  | fuel + 1, c :: cs =>
    if c = '#' then some ([], true)
    else if isBlank c then scan? length fuel cs
    else do
      let (t, rest) ← Token.scan? c cs
      let (ts, commented) ← scan? length fuel rest
      return (⟨length - (c :: cs).length, t⟩ :: ts, commented)

/-- The mark of a document at the front, and the rest. -/
def splitMark (cs : List Char) : List Placed × List Char :=
  if !atGap (cs.drop 3) then ([], cs)
  else if cs.take 3 = ['-', '-', '-'] then ([⟨0, .start⟩], cs.drop 3)
  else if cs.take 3 = ['.', '.', '.'] then ([⟨0, .stop⟩], cs.drop 3)
  else ([], cs)

/-- The line of a text. Each step takes at least one character. -/
def ofText? (cs : List Char) : Option Line := do
  let (mark, rest) := splitMark cs
  let (ts, commented) ← scan? cs.length rest.length rest
  return ⟨(cs.takeWhile isBlank).idxOf? '\t', mark ++ ts, commented⟩

end Line

end RecordQuery.Yaml
