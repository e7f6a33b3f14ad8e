import RecordQuery.Declaration.Attribute
import RecordQuery.Declaration.Generics
import RecordQuery.Field.Map

/-!
# Field maps of declared records

* `Declaration`, a record with annotated fields;
* `Declaration.derive`, what the annotations make of it;
* `Derivation`, a constant and a registration for each exposed field, and the field map that the
  registrations build.
-/

namespace RecordQuery

/-- What kind of type is declared. -/
inductive DeclaredShape
  | named
  | tuple
  | unit
  | enumeration
  | union
  deriving DecidableEq

/-- A field with its attributes. -/
structure DeclaredField where
  name : String
  attributes : List (List AttributeItem)

/-- A type that is to become a record that can be queried. -/
structure Declaration where
  name : String
  shape : DeclaredShape
  parameters : List Parameter
  attributes : List (List AttributeItem)
  fields : List DeclaredField

/-- A field that requests may name, and where it is read from. -/
structure Registration where
  id : String
  type : FieldType
  field : String
  deriving DecidableEq

/-- A constant that holds the identifier of a field. -/
structure IdConstant where
  name : String
  id : String
  deriving DecidableEq

/-- What a declaration becomes. -/
structure Derivation where
  constants : List IdConstant
  registrations : List Registration

namespace DeclaredField

/-- What becomes of a field in a record of the given style: nothing, or a registration. -/
def registration? (rule : RenameRule) (f : DeclaredField) :
    Except DeclarationError (Option Registration) := do
  let a ← FieldAttribute.ofAttributes f.attributes
  if a.skip then return none
  match a.type with
  | none => return none
  | some type =>
    let id := a.rename.getD (String.ofList (rule.apply f.name.toList))
    return some ⟨id, type, f.name⟩

end DeclaredField

namespace Registration

/-- The constant for a field. -/
def constant (r : Registration) : IdConstant :=
  ⟨String.ofList (constantName r.field.toList), r.id⟩

/-- The accessor of a field of a record that gives a value for each of its fields. -/
def accessor (r : Registration) : Accessor (String → Value) :=
  .ofValue r.type fun record => record r.field

end Registration

namespace Derivation

/-- The field map that the registrations build, on records that give a value for each field. -/
def fieldMap (d : Derivation) : FieldMap (String → Value) :=
  .ofList <| d.registrations.map fun r => (r.id, r.accessor)

end Derivation

namespace Declaration

/-- The registrations of fields from left to right, none of which may repeat an identifier that
has been used. -/
def registerAll (rule : RenameRule) :
    List DeclaredField → List String → Except DeclarationError (List Registration)
  | [], _ => return []
  | f :: fs, used => do
    match ← f.registration? rule with
    | none => registerAll rule fs used
    | some r =>
      if used.contains r.id then throw (.duplicateField r.id)
      return r :: (← registerAll rule fs (r.id :: used))

/-- The fields of a declaration that may have some. -/
def namedFields (d : Declaration) : Except DeclarationError (List DeclaredField) :=
  match d.shape with
  | .named => .ok d.fields
  | .tuple | .unit => .error .unnamedFields
  | .enumeration | .union => .error .notStruct

/-- What a declaration becomes. The attributes of the record are checked first, then its shape,
then its fields from left to right, and its parameters last. -/
def derive (d : Declaration) : Except DeclarationError Derivation := do
  let rule ← ContainerAttribute.ofAttributes d.attributes
  let fields ← d.namedFields
  let registrations ← registerAll rule fields []
  if d.parameters.contains .lifetime then throw .lifetime
  return ⟨registrations.map Registration.constant, registrations⟩

/-- The parameters that an implementation for the declared type declares, without spaces. -/
def implParameters (d : Declaration) : String :=
  String.ofList (Parameter.bracketed (d.parameters.map Parameter.bounded))

/-- The declared type with its parameters, without spaces. -/
def selfType (d : Declaration) : String :=
  d.name ++ String.ofList (Parameter.bracketed (d.parameters.map Parameter.argument))

end Declaration

end RecordQuery
