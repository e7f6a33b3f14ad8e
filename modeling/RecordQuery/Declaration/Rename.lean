import RecordQuery.Declaration.Error
import RecordQuery.Text.Uppercase

/-!
# Names made from field names

* `plainName`, a field name without the mark `r#` that lets a keyword be a name;
* `RenameRule`, the styles of field identifiers, and `RenameRule.apply`;
* `constantName`, the name of the constant that holds a field identifier.
-/

namespace RecordQuery

/-- A field name without the mark `r#`. -/
def plainName : List Char → List Char
  | 'r' :: '#' :: cs => cs
  | cs => cs

/-- The style of field identifiers. -/
inductive RenameRule
  | none
  | camelCase
  | pascalCase
  | kebabCase
  deriving DecidableEq

namespace RenameRule

/-- The rule with the given name. -/
def ofName (name : String) : Except DeclarationError RenameRule :=
  if name = "snake_case" then .ok .none
  else if name = "camelCase" then .ok .camelCase
  else if name = "PascalCase" then .ok .pascalCase
  else if name = "kebab-case" then .ok .kebabCase
  else .error (.unknownRule name)

/-- Drops underscores and raises the letter after one, but not before the first letter. `raise`
tells whether the next letter is raised, and `begun` whether there has been a letter. -/
def joinWords (raise begun : Bool) : List Char → List Char
  | [] => []
  | '_' :: cs => joinWords begun begun cs
  | c :: cs => (if raise then c.toUpper else c) :: joinWords false true cs

/-- The identifier of a field in the style. -/
def apply (rule : RenameRule) (name : List Char) : List Char :=
  let name := plainName name
  match rule with
  | .none => name
  | .kebabCase => name.map fun c => if c = '_' then '-' else c
  | .camelCase => joinWords false false name
  | .pascalCase => joinWords true false name

end RenameRule

/-- Sets words apart by underscores and raises every letter. A word starts at a capital after
something that is none; `small` tells whether the character before is such. -/
def constantWords (small : Bool) : List Char → List Char
  | [] => []
  | c :: cs =>
    if Text.isCapital c then
      if small then '_' :: c :: constantWords false cs else c :: constantWords false cs
    else if c = '_' ∨ c = '-' then '_' :: constantWords false cs
    else c.toUpper :: constantWords true cs

/-- The name of the constant for a field. -/
def constantName (name : List Char) : List Char :=
  constantWords false (plainName name)

end RecordQuery
