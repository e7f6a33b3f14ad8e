import RecordQuery.Declaration.Rename
import RecordQuery.Value

/-!
# Attributes of record declarations

* `AttributeItem`, what can be written in an attribute;
* `FieldAttribute.ofItems`, what the items say of a field: its type, whether it is skipped and what
  it is called;
* `ContainerAttribute.ofItems`, the style of identifiers that the items of a record ask for.

Of several attributes only the first counts.
-/

namespace RecordQuery

/-- An item of an attribute. -/
inductive AttributeItem
  /-- A name, or several joined by `::`. -/
  | path (segments : List String)
  /-- A setting with its value, absent where that is no string. -/
  | setting (name : String) (value : Option String)
  /-- A name with items of its own. -/
  | list (name : String)
  deriving DecidableEq

/-- The type with one of its names in an attribute. -/
def FieldType.ofAttributeName? (name : String) : Option FieldType :=
  if ["Text", "text", "String", "string"].contains name then some .text
  else if ["Integer", "integer", "Int", "int"].contains name then some .integer
  else if ["Float", "float"].contains name then some .float
  else if ["Bool", "bool", "boolean"].contains name then some .bool
  else if ["Timestamp", "timestamp"].contains name then some .timestamp
  else if ["Uuid", "uuid"].contains name then some .uuid
  else none

/-- What an attribute says of a field. -/
structure FieldAttribute where
  type : Option FieldType := none
  skip : Bool := false
  rename : Option String := none
  deriving DecidableEq

namespace FieldAttribute

/-- The string value of a setting. -/
def stringValue (name : String) (value : Option String) : Except DeclarationError String :=
  match value with
  | some s => .ok s
  | none => .error (.notString name)

/-- Gives the field the type with the given name; it may have one type only. -/
def setType (a : FieldAttribute) (name : String) : Except DeclarationError FieldAttribute :=
  match FieldType.ofAttributeName? name with
  | none => .error (.unknownType name)
  | some type =>
    if a.type.isSome then .error .repeatedType else .ok { a with type := some type }

/-- Adds what one item says. -/
def add (a : FieldAttribute) : AttributeItem → Except DeclarationError FieldAttribute
  | .path [name] => if name = "skip" then .ok { a with skip := true } else a.setType name
  | .path _ => .error .compoundType
  | .setting name value =>
    if name = "rename" then do return { a with rename := some (← stringValue name value) }
    else if name = "ty" then do a.setType (← stringValue name value)
    else .error .unknownSetting
  | .list _ => .error .unknownList

/-- What the items of an attribute say together. -/
def ofItems (items : List AttributeItem) : Except DeclarationError FieldAttribute := do
  let a ← items.foldlM add {}
  if a.skip && (a.type.isSome || a.rename.isSome) then throw .skippedWithType
  return a

/-- What the attributes of a field say. -/
def ofAttributes (attributes : List (List AttributeItem)) :
    Except DeclarationError FieldAttribute :=
  match attributes with
  | [] => .ok {}
  | items :: _ => ofItems items

end FieldAttribute

namespace ContainerAttribute

/-- The rule after one more item. -/
def add (_ : RenameRule) : AttributeItem → Except DeclarationError RenameRule
  | .setting name value =>
    if name = "rename_all" then do
      RenameRule.ofName (← FieldAttribute.stringValue name value)
    else .error .unknownContainerItem
  | _ => .error .unknownContainerItem

/-- The style of identifiers that the attributes of a record ask for. -/
def ofAttributes (attributes : List (List AttributeItem)) :
    Except DeclarationError RenameRule :=
  match attributes with
  | [] => .ok .none
  | items :: _ => items.foldlM add .none

end ContainerAttribute

end RecordQuery
