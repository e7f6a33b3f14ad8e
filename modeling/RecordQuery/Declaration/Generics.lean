import RecordQuery.Declaration.Lexeme

/-!
# Type parameters of declarations

* `Parameter`, a lifetime, a type or a constant;
* `Parameter.ofText`, the parameter that a source text declares;
* `Parameter.bounded`, its declaration with the bound that a record needs to be held without limit
  of time, and `Parameter.argument`, its use.
-/

namespace RecordQuery

/-- A type parameter of a declaration. -/
inductive Parameter
  | lifetime
  /-- A type with its attributes and its bounds, both of which may be empty. -/
  | type (attributes name bounds : List Char)
  /-- A constant with its attributes and its type. -/
  | const (attributes name type : List Char)
  deriving DecidableEq

namespace Parameter

/-- The attributes at the front and the rest. `depth` counts the open brackets. -/
def splitAttributes : Nat → List Lexeme → List Lexeme × List Lexeme
  | 0, .mark '#' :: .mark '[' :: ls =>
    let (attributes, rest) := splitAttributes 1 ls
    (.mark '#' :: .mark '[' :: attributes, rest)
  | 0, ls => ([], ls)
  | depth + 1, l :: ls =>
    let (attributes, rest) := splitAttributes (l.depthAfter (depth + 1)) ls
    (l :: attributes, rest)
  | _, [] => ([], [])

/-- The lexemes before a default, which an equals sign outside of all brackets starts. `depth`
counts the open brackets and `angles` the open angle brackets outside of them; inside of other
brackets an angle bracket may be a comparison. -/
def beforeDefault (depth angles : Nat) : List Lexeme → List Lexeme
  | [] => []
  | l :: ls =>
    if depth = 0 ∧ angles = 0 ∧ l = .mark '=' then []
    else if depth = 0 ∧ l = .mark '<' then l :: beforeDefault depth (angles + 1) ls
    else if depth = 0 ∧ l = .mark '>' then l :: beforeDefault depth (angles - 1) ls
    else l :: beforeDefault (l.depthAfter depth) angles ls

/-- The name in front of a colon and what follows it, without a default. -/
def nameAndRest (ls : List Lexeme) : List Lexeme × List Lexeme :=
  let ls := beforeDefault 0 0 ls
  (ls.takeWhile (· ≠ .mark ':'), (ls.dropWhile (· ≠ .mark ':')).drop 1)

/-- Bounds without a plus at their end. -/
def withoutLastPlus (ls : List Lexeme) : List Lexeme :=
  if ls.getLast? = some (.mark '+') then ls.dropLast else ls

/-- The parameter that lexemes declare. -/
def ofLexemes (ls : List Lexeme) : Parameter :=
  let (attributes, ls) := splitAttributes 0 ls
  let attributes := Lexeme.textOf attributes
  match ls with
  | .tick :: _ => .lifetime
  | l :: ls =>
    if l = .word "const".toList then
      let (name, typeName) := nameAndRest ls
      .const attributes (Lexeme.textOf name) (Lexeme.textOf typeName)
    else
      let (name, bounds) := nameAndRest (l :: ls)
      .type attributes (Lexeme.textOf name) (Lexeme.textOf (withoutLastPlus bounds))
  | [] => .type attributes [] []

/-- The parameter that a text declares. -/
def ofText (text : String) : Parameter :=
  ofLexemes (Lexeme.ofText text)

/-- The declaration of a parameter; a type has to outlive everything. -/
def bounded : Parameter → List Char
  | .lifetime => []
  | .type attributes name bounds =>
    attributes ++ name ++
      ':' :: ((if bounds.isEmpty then [] else bounds ++ ['+']) ++ "'static".toList)
  | .const attributes name typeName =>
    attributes ++ "const".toList ++ name ++ ':' :: typeName

/-- The use of a parameter, which has no attributes. -/
def argument : Parameter → List Char
  | .lifetime => []
  | .type _ name _ => name
  | .const _ name _ => name

/-- Texts between angle brackets, or nothing where there are none. Spaces are left out, also those
of literals. -/
def bracketed (texts : List (List Char)) : List Char :=
  if texts.isEmpty then []
  else ('<' :: ([','].intercalate texts ++ ['>'])).filter (· != ' ')

end Parameter

end RecordQuery
