import RecordQuery.Json.Basic

/-!
# JSON texts

* `Json.quote`, a string in quotes with the quote, the backslash and control characters escaped;
* `Json.render`, the text without blanks;
* `Json.renderIndented`, the text with each item and member on a line of its own.
-/

namespace RecordQuery.Json

/-- The text between quotes that stands for a character. -/
def escape (c : Char) : List Char :=
  match c with
  | '"' => ['\\', '"']
  | '\\' => ['\\', '\\']
  | '\x08' => ['\\', 'b']
  | '\x0c' => ['\\', 'f']
  | '\n' => ['\\', 'n']
  | '\r' => ['\\', 'r']
  | '\t' => ['\\', 't']
  | c =>
    if c.toNat < 0x20 then
      ['\\', 'u', '0', '0', Nat.digitChar (c.toNat / 16), Nat.digitChar (c.toNat % 16)]
    else [c]

/-- A string in quotes. -/
def quote (s : String) : List Char :=
  '"' :: (s.toList.flatMap escape ++ ['"'])

/-- Texts with commas between them. -/
def joinComma (texts : List (List Char)) : List Char :=
  [','].intercalate texts

mutual

/-- The text without blanks. -/
def render : Json → List Char
  | .null => ['n', 'u', 'l', 'l']
  | .bool true => ['t', 'r', 'u', 'e']
  | .bool false => ['f', 'a', 'l', 's', 'e']
  | .number n => n.render
  | .string s => quote s
  | .array items => '[' :: (joinComma (renderItems items) ++ [']'])
  | .object members => '{' :: (joinComma (renderMembers members) ++ ['}'])

/-- The texts of the items. -/
def renderItems : List Json → List (List Char)
  | [] => []
  | v :: vs => v.render :: renderItems vs

/-- The texts of the members. -/
def renderMembers : List (String × Json) → List (List Char)
  | [] => []
  | (k, v) :: ms => (quote k ++ ':' :: v.render) :: renderMembers ms

end

/-- A new line with two spaces for each level. -/
def newLine (level : Nat) : List Char :=
  '\n' :: List.replicate (2 * level) ' '

/-- Lines of a level between brackets; without lines the brackets stay closed. -/
def bracketed (level : Nat) (opening closing : Char) (lines : List (List Char)) : List Char :=
  if lines.isEmpty then [opening, closing]
  else opening :: (joinComma (lines.map (newLine (level + 1) ++ ·)) ++ newLine level ++ [closing])

mutual

/-- The text of a value at a level of nesting. -/
def renderLevel (level : Nat) : Json → List Char
  | .array items => bracketed level '[' ']' (renderItemsLevel (level + 1) items)
  | .object members => bracketed level '{' '}' (renderMembersLevel (level + 1) members)
  | v => v.render

/-- The texts of the items at their level. -/
def renderItemsLevel (level : Nat) : List Json → List (List Char)
  | [] => []
  | v :: vs => v.renderLevel level :: renderItemsLevel level vs

/-- The texts of the members at their level. -/
def renderMembersLevel (level : Nat) : List (String × Json) → List (List Char)
  | [] => []
  | (k, v) :: ms => (quote k ++ ':' :: ' ' :: v.renderLevel level) :: renderMembersLevel level ms

end

/-- The text with an indentation of two spaces for each level. -/
def renderIndented (v : Json) : List Char :=
  v.renderLevel 0

/-- The text without blanks, as a string. -/
def toText (v : Json) : String :=
  String.ofList v.render

end RecordQuery.Json
