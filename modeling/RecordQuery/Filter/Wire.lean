import RecordQuery.Decode.Record
import RecordQuery.Filter.Basic

/-!
# Filters in JSON

The operator of a node decides its kind, and with it which of the other members the node needs.

* `Filter.toJson`, an object for each node;
* `Filter.read`, the reader of filters;
* `Filter.ofJson` and `Filter.ofText`, which read a value and a text.
-/

namespace RecordQuery

/-- The JSON form of an operator is its symbol. -/
def Operator.toJson (op : Operator) : Json :=
  .string op.symbol

/-- The operator of a symbol. -/
def Operator.reader : Reader Operator :=
  Reader.parsed "a string" fun symbol =>
    match Operator.ofSymbol? symbol with
    | some op => .ok op
    | none => .error (.unsupportedOperator symbol)

/-- The operand of a literal. -/
def Operand.reader : Reader Operand := fun room t =>
  (Reader.free room t).map .literal

namespace Filter

mutual

/-- The JSON form of a filter. -/
def toJson : Filter → Json
  | .value field op operand =>
    .object [("fieldId", .string field), ("operator", op.toJson), ("value", operand.toJson)]
  | .membership field op operands =>
    .object [("fieldId", .string field), ("operator", op.toJson),
      ("values", .array (operands.map Operand.toJson))]
  | .logical op children =>
    .object [("operator", op.toJson), ("children", .array (listToJson children))]

/-- The JSON forms of several filters. -/
def listToJson : List Filter → List Json
  | [] => []
  | f :: fs => f.toJson :: listToJson fs

end

/-- The members of a node as far as they are there. -/
structure Draft where
  field : Option String := none
  op : Operator := .eq
  operand : Option Operand := none
  operands : Option (List Operand) := none
  children : Option (List Filter) := none

namespace Draft

/-- The JSON form of a node, given the reader of its children. -/
def shape (child : Tree → Except Fault Filter) : RecordShape Draft where
  name := "RawNode"
  strict := true
  start := {}
  members := [
    .optional "fieldId" (.nullable .text) fun d v => { d with field := v },
    .mandatory "operator" Operator.reader fun d v => { d with op := v },
    .optional "value" Operand.reader fun d v => { d with operand := some v },
    .optional "values" (.nullable (.list Operand.reader)) fun d v => { d with operands := v },
    .optional "children" (.nullable (.list fun _ => child)) fun d v => { d with children := v }]

/-- A part that the operator needs. -/
def part {α : Type} (d : Draft) (key : String) (a : Option α) : Except Fault α :=
  match a with
  | some a => .ok a
  | none => .error (.missingPart d.op key)

/-- The node of the kind of the operator; what the kind does not need is left out. -/
def toFilter (d : Draft) : Except Fault Filter :=
  match d.op.kind with
  | .value => return .value (← d.part "fieldId" d.field) d.op (← d.part "value" d.operand)
  | .membership =>
    return .membership (← d.part "fieldId" d.field) d.op (← d.part "values" d.operands)
  | .logical => return .logical d.op (← d.part "children" d.children)

end Draft

/-- Reads a node, given the reader of its children. -/
def readNode (room : Nat) (child : Tree → Except Fault Filter) (t : Tree) :
    Except Fault Filter := do
  (← (Draft.shape child).reader room t).toFilter

/-- The reader of filters. A node takes up one level for its object and one for the array of its
children. -/
def read : Reader Filter
  | 0 => readNode 0 fun _ => .error .malformed
  | 1 => readNode 1 fun _ => .error .malformed
  | room + 2 => readNode (room + 2) (read room)

/-- The filter that a JSON value stands for. -/
def ofJson (v : Json) : Except Fault Filter :=
  Reader.decodeJson read v

/-- The filter that a text writes. -/
def ofText (text : String) : Except Fault Filter :=
  Reader.decodeText read text

end Filter

end RecordQuery
