/-!
# Errors of record declarations

`DeclarationError` tells what keeps a declaration from becoming a field map.
-/

namespace RecordQuery

/-- Why a declaration is refused. -/
inductive DeclarationError
  | unknownType (name : String)
  | compoundType
  | repeatedType
  | notString (setting : String)
  | unknownSetting
  | unknownList
  | skippedWithType
  | unknownRule (name : String)
  | unknownContainerItem
  | unnamedFields
  | notStruct
  | duplicateField (id : String)
  | lifetime
  deriving DecidableEq

namespace DeclarationError

/-- The names of types as they are recommended. -/
def typeNames : String :=
  "Text, Integer, Float, Bool, Timestamp, Uuid"

/-- The wording of an error. -/
def message : DeclarationError → String
  | .unknownType name => s!"unknown field type: '{name}'. Expected one of: {typeNames}"
  | .compoundType => s!"expected {typeNames}, or skip"
  | .repeatedType => "field type given more than once"
  | .notString setting => s!"{setting} must be a string literal"
  | .unknownSetting => "unknown attribute. Expected: rename or ty"
  | .unknownList =>
    s!"unknown sift attribute. Expected: {typeNames}" ++
      ", skip, rename = \"...\", or ty = \"...\""
  | .skippedWithType => "skip cannot be combined with a field type or rename"
  | .unknownRule name =>
    s!"unknown rename rule: '{name}'" ++
      ". Expected one of: snake_case, camelCase, PascalCase, kebab-case"
  | .unknownContainerItem => "unknown container attribute. Expected: rename_all = \"...\""
  | .unnamedFields => "Queryable can only be derived for structs with named fields"
  | .notStruct => "Queryable can only be derived for structs"
  | .duplicateField id => s!"duplicate field identifier '{id}'"
  | .lifetime => "Queryable records must be 'static, remove the lifetime parameter"

end DeclarationError

end RecordQuery
