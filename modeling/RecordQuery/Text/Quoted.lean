import RecordQuery.Text.Printable

/-!
# Quoted texts in messages

`quoted` writes a text between quotes so that every character of it can be seen: the quote, the
backslash and the common control characters as two characters, other characters without a glyph by
their number.
-/

namespace RecordQuery.Text

/-- How a character is shown between quotes. -/
def visible (c : Char) : List Char :=
  match c with
  | '"' => ['\\', '"']
  | '\\' => ['\\', '\\']
  | '\x00' => ['\\', '0']
  | '\t' => ['\\', 't']
  | '\n' => ['\\', 'n']
  | '\r' => ['\\', 'r']
  | c =>
    if isPrintable c then [c]
    else ['\\', 'u', '{'] ++ Nat.toDigits 16 c.toNat ++ ['}']

/-- A text between quotes. -/
def quoted (s : String) : String :=
  String.ofList ('"' :: (s.toList.flatMap visible ++ ['"']))

end RecordQuery.Text
