import RecordQuery.Text.Blank
import RecordQuery.Text.Quoted

/-!
# Lexemes of declarations

* `Lexeme`, a word, a quoted literal or a mark in the source text of a declaration;
* `Lexeme.scan`, the lexemes at the front of a text and the rest;
* `Lexeme.ofText`, the lexemes of a text, without blanks and comments.
-/

namespace RecordQuery

open Text

/-- A piece of the source text of a declaration. -/
inductive Lexeme
  /-- A name, a keyword or a number. -/
  | word (cs : List Char)
  /-- A string or a character with its quotes. -/
  | literal (cs : List Char)
  /-- The quote in front of the name of a lifetime. -/
  | tick
  /-- An arrow, of which the angle bracket closes nothing. -/
  | arrow
  | mark (c : Char)
  deriving DecidableEq

namespace Lexeme

/-- The text of a lexeme. -/
def text : Lexeme → List Char
  | .word cs => cs
  | .literal cs => cs
  | .tick => ['\'']
  | .arrow => ['-', '>']
  | .mark c => [c]

/-- The text of lexemes without anything between them. -/
def textOf (ls : List Lexeme) : List Char :=
  ls.flatMap text

/-- How many brackets are open after a lexeme, if `depth` were open before it. -/
def depthAfter (depth : Nat) : Lexeme → Nat
  | .mark c =>
    if c = '(' ∨ c = '[' ∨ c = '{' then depth + 1
    else if c = ')' ∨ c = ']' ∨ c = '}' then depth - 1
    else depth
  | _ => depth

/-- The characters between lexemes: blanks and the marks of the writing direction. -/
def isGap (c : Char) : Bool :=
  isBlank c || c == '\u200E' || c == '\u200F'

/-- The characters of words, among them all beyond ASCII that are no gap. -/
def isWordChar (c : Char) : Bool :=
  c.isAlphanum || c == '_' || (0x80 ≤ c.toNat && !isGap c)

/-- The text up to the quote that closes it, and the rest. A backslash takes the character after it
along. -/
def throughQuote (quote : Char) : List Char → List Char × List Char
  | '\\' :: c :: cs =>
    let (text, rest) := throughQuote quote cs
    ('\\' :: c :: text, rest)
  | c :: cs =>
    if c = quote then ([c], cs)
    else
      let (text, rest) := throughQuote quote cs
      (c :: text, rest)
  | [] => ([], [])

/-- The text up to a quote with the given signs behind it, and the rest. -/
def throughRawQuote (signs : List Char) : List Char → List Char × List Char
  | [] => ([], [])
  | c :: cs =>
    if c = '"' ∧ signs.isPrefixOf cs then ('"' :: signs, cs.drop signs.length)
    else
      let (text, rest) := throughRawQuote signs cs
      (c :: text, rest)

/-- The text up to the end of a block comment with `depth` comments inside it open, and the rest. -/
def blockComment : Nat → List Char → List Char × List Char
  | 0, '*' :: '/' :: cs => ([], cs)
  | depth + 1, '*' :: '/' :: cs =>
    let (text, rest) := blockComment depth cs
    ('*' :: '/' :: text, rest)
  | depth, '/' :: '*' :: cs =>
    let (text, rest) := blockComment (depth + 1) cs
    ('/' :: '*' :: text, rest)
  | depth, c :: cs =>
    let (text, rest) := blockComment depth cs
    (c :: text, rest)
  | _, [] => ([], [])

/-- A line up to its end, and the rest. -/
def lineComment (cs : List Char) : List Char × List Char :=
  let line := cs.takeWhile (· != '\n')
  (if line.getLast? = some '\r' then line.dropLast else line, cs.dropWhile (· != '\n'))

/-- The attribute that documents what follows it. -/
def documentation (text : List Char) : List Lexeme :=
  [.mark '#', .mark '[', .word ['d', 'o', 'c'], .mark '=',
    .literal ('"' :: (text.flatMap visible ++ ['"'])), .mark ']']

/-- The word at the front and the rest. With `r`, `br` and `cr` a string may start in which a
backslash has no meaning. -/
def scanWord (cs : List Char) : Lexeme × List Char :=
  let front := cs.takeWhile isWordChar
  let rest := cs.dropWhile isWordChar
  let signs := rest.takeWhile (· == '#')
  match rest.dropWhile (· == '#') with
  | '"' :: cs =>
    if front ∈ [['r'], ['b', 'r'], ['c', 'r']] then
      let (text, rest) := throughRawQuote signs cs
      (.literal (front ++ signs ++ '"' :: text), rest)
    else (.word front, rest)
  | _ => (.word front, rest)

/-- The lexemes that start with the given character, and the rest. A comment makes none, unless
three slashes or a slash and two stars start it, and not more of them: it documents what follows. -/
def scan : Char → List Char → List Lexeme × List Char
  | '/', '/' :: '/' :: cs =>
    let (line, rest) := lineComment cs
    (if cs.head? = some '/' then [] else documentation line, rest)
  | '/', '/' :: cs => ([], (lineComment cs).2)
  | '/', '*' :: '*' :: cs =>
    let (text, rest) := blockComment 0 ('*' :: cs)
    (if cs.head? = some '*' ∨ cs.head? = some '/' then [] else documentation (text.drop 1), rest)
  | '/', '*' :: cs => ([], (blockComment 0 cs).2)
  | '-', '>' :: cs => ([.arrow], cs)
  | '"', cs =>
    let (text, rest) := throughQuote '"' cs
    ([.literal ('"' :: text)], rest)
  | '\'', '\\' :: cs =>
    let (text, rest) := throughQuote '\'' ('\\' :: cs)
    ([.literal ('\'' :: text)], rest)
  | '\'', c :: '\'' :: cs => ([.literal ['\'', c, '\'']], cs)
  | '\'', cs => ([.tick], cs)
  | c, cs =>
    if isGap c then ([], cs)
    else if isWordChar c then
      let (l, rest) := scanWord (c :: cs)
      ([l], rest)
    else ([.mark c], cs)

/-- The lexemes that the first `fuel` scans find. -/
def ofChars : Nat → List Char → List Lexeme
  | _, [] => []
  | 0, _ => []
  | fuel + 1, c :: cs =>
    let (ls, rest) := scan c cs
    ls ++ ofChars fuel rest

/-- The lexemes of a text. Each scan takes at least one character. -/
def ofText (text : String) : List Lexeme :=
  ofChars text.toList.length text.toList

end Lexeme

end RecordQuery
