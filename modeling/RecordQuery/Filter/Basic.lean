import RecordQuery.Operand
import RecordQuery.Operator

/-!
# Filters

A filter is a tree. Its leaves compare a field with a value or look it up in a list of values, and
its inner nodes join filters. A node may carry any operator; whether it suits the node is decided
when the filter is compiled.

* `Filter`, with `operator`, `kind`, `depth`, `nodeCount` and `fields`.
-/

namespace RecordQuery

/-- A condition on records. -/
inductive Filter
  | value (field : String) (op : Operator) (operand : Operand)
  | membership (field : String) (op : Operator) (operands : List Operand)
  | logical (op : Operator) (children : List Filter)

namespace Filter

/-- What holds of every leaf, and of a logical node if it holds of its children, holds of every
filter. -/
@[elab_as_elim, induction_eliminator]
theorem induction {motive : Filter → Prop}
    (value : ∀ field op operand, motive (.value field op operand))
    (membership : ∀ field op operands, motive (.membership field op operands))
    (logical : ∀ op children, (∀ f ∈ children, motive f) → motive (.logical op children))
    (f : Filter) : motive f :=
  match f with
  | .value field op operand => value field op operand
  | .membership field op operands => membership field op operands
  | .logical op children => logical op children fun g _ => induction value membership logical g

/-- The operator of the outermost node. -/
def operator : Filter → Operator
  | .value _ op _ => op
  | .membership _ op _ => op
  | .logical op _ => op

/-- The kind of the outermost node. -/
def kind : Filter → OperatorKind
  | .value .. => .value
  | .membership .. => .membership
  | .logical .. => .logical

mutual

/-- The greatest number of logical nodes on a way from the root to a leaf. -/
def depth : Filter → Nat
  | .logical _ children => listDepth children + 1
  | _ => 0

/-- The greatest depth of several filters. -/
def listDepth : List Filter → Nat
  | [] => 0
  | f :: fs => max f.depth (listDepth fs)

end

mutual

/-- The number of nodes. -/
def nodeCount : Filter → Nat
  | .logical _ children => listNodeCount children + 1
  | _ => 1

/-- The number of nodes of several filters. -/
def listNodeCount : List Filter → Nat
  | [] => 0
  | f :: fs => f.nodeCount + listNodeCount fs

end

mutual

/-- The fields of the leaves from left to right. -/
def fields : Filter → List String
  | .value field _ _ => [field]
  | .membership field _ _ => [field]
  | .logical _ children => listFields children

/-- The fields of several filters. -/
def listFields : List Filter → List String
  | [] => []
  | f :: fs => f.fields ++ listFields fs

end

end Filter

end RecordQuery
