import RecordQuery.Coercion
import RecordQuery.Filter.Basic
import RecordQuery.Predicate
import RecordQuery.Sort.Order

/-!
# The compiler

A filter becomes a predicate and a list of sort rules a sort order. Everything that can be wrong
with a request is found here: what is compiled cannot fail.

* `Limits`, the bounds on nesting and on lists of values;
* `Compiler.compileFilter`, which checks each node before its children and children from left to
  right;
* `Compiler.compileSort`, which looks the fields of the rules up.
-/

namespace RecordQuery

variable {R : Type}

/-- Bounds on filters. -/
structure Limits where
  maxDepth : Nat := 32
  maxValues : Nat := 1024
  deriving DecidableEq, Inhabited

/-- The description of limits. -/
def Limits.describe (l : Limits) : String :=
  "CompilerConfig \x7b max_depth: " ++ toString l.maxDepth ++ ", max_values: " ++
    toString l.maxValues ++ " \x7d"

/-- What requests are compiled against. -/
structure Compiler (R : Type) where
  fields : FieldMap R
  limits : Limits := {}

/-- The description of a compiler: its fields and its limits. -/
def Compiler.describe (c : Compiler R) : String :=
  "Compiler \x7b fields: " ++ c.fields.describe ++ ", config: " ++ c.limits.describe ++ " \x7d"

/-- The operator has the kind of its node. -/
def requireKind (op : Operator) (kind : OperatorKind) : Except CompileError Unit :=
  ensure (op.kind = kind) (.unsupportedOperator op.symbol)

namespace Compiler

/-- The predicate of a leaf with one operand. -/
def compileValue (c : Compiler R) (field : String) (op : Operator) (operand : Operand) :
    Except CompileError (Predicate R) := do
  requireKind op .value
  let a ← c.fields.lookup field
  checkApplicable field a.type op
  let v ← coerce field a.type operand
  valuePredicate field a op v

/-- The predicate of a leaf with a list of operands. -/
def compileMembership (c : Compiler R) (field : String) (op : Operator)
    (operands : List Operand) : Except CompileError (Predicate R) := do
  requireKind op .membership
  let a ← c.fields.lookup field
  ensure (operands.length ≤ c.limits.maxValues)
    (.tooManyValues field operands.length c.limits.maxValues)
  let vs ← coerceMany field a.type operands
  membershipPredicate field a op vs

/-- The checks of a logical node at a depth, before its children are compiled. -/
def checkLogical (c : Compiler R) (depth : Nat) (op : Operator) (children : Nat) :
    Except CompileError Unit := do
  requireKind op .logical
  ensure (depth ≤ c.limits.maxDepth) (.tooDeep c.limits.maxDepth)
  ensure (2 ≤ children) (.tooFewChildren op children)

/-- The predicate that joins those of the children. -/
def join (op : Operator) (ps : List (Predicate R)) : Except CompileError (Predicate R) :=
  match op with
  | .and => Predicate.all ps
  | _ => Predicate.any ps

mutual

/-- The predicate of a filter inside `depth` logical nodes. -/
def compileAt (c : Compiler R) (depth : Nat) : Filter → Except CompileError (Predicate R)
  | .value field op operand => c.compileValue field op operand
  | .membership field op operands => c.compileMembership field op operands
  | .logical op children => do
    c.checkLogical (depth + 1) op children.length
    join op (← c.compileListAt (depth + 1) children)

/-- The predicates of several filters. -/
def compileListAt (c : Compiler R) (depth : Nat) :
    List Filter → Except CompileError (List (Predicate R))
  | [] => return []
  | f :: fs => return (← c.compileAt depth f) :: (← c.compileListAt depth fs)

end

/-- The predicate of a filter. -/
def compileFilter (c : Compiler R) (f : Filter) : Except CompileError (Predicate R) :=
  c.compileAt 0 f

/-- The key of a sort rule. -/
def compileRule (c : Compiler R) (rule : SortRule) : Except CompileError (SortKey R) :=
  return ⟨rule.field, ← c.fields.lookup rule.field, rule.direction⟩

/-- The sort order of at least one rule. -/
def compileSort (c : Compiler R) (rules : List SortRule) : Except CompileError (SortOrder R) :=
  if rules.isEmpty then .error .noSortRules
  else return ⟨← rules.mapM c.compileRule⟩

end Compiler

end RecordQuery
