/-!
# Operators

The twelve operators fall into three kinds: those that compare a field with one value, those that
look it up in a list of values, and those that join filters.

* `Operator`, its `kind` and its `symbol`;
* `Operator.ofSymbol?`, the operator of a symbol;
* `Operator.positive`, the operator that a negated one denies;
* `Operator.accepts`, the orderings for which a comparison holds.
-/

namespace RecordQuery

/-- What an operator of a filter does. -/
inductive Operator
  | eq
  | notEq
  | gt
  | gte
  | lt
  | lte
  | contains
  | notContains
  | isIn
  | notIn
  | and
  | or
  deriving DecidableEq

/-- What an operator is applied to. -/
inductive OperatorKind
  /-- One field and one value. -/
  | value
  /-- One field and a list of values. -/
  | membership
  /-- A list of filters. -/
  | logical
  deriving DecidableEq

namespace Operator

/-- The operators in the order in which they are tried for a symbol. -/
def all : List Operator :=
  [.eq, .notEq, .gt, .gte, .lt, .lte, .contains, .notContains, .isIn, .notIn, .and, .or]

/-- The kind of an operator. -/
def kind : Operator → OperatorKind
  | .isIn | .notIn => .membership
  | .and | .or => .logical
  | _ => .value

/-- The symbol that stands for an operator in requests and messages. -/
def symbol : Operator → String
  | .eq => "="
  | .notEq => "!="
  | .gt => ">"
  | .gte => ">="
  | .lt => "<"
  | .lte => "<="
  | .contains => "contains"
  | .notContains => "!contains"
  | .isIn => "in"
  | .notIn => "!in"
  | .and => "and"
  | .or => "or"

/-- The operator with the given symbol. -/
def ofSymbol? (symbol : String) : Option Operator :=
  all.find? fun op => op.symbol == symbol

/-- Holds for the four operators that compare by order. -/
def isOrdering : Operator → Bool
  | .gt | .gte | .lt | .lte => true
  | _ => false

/-- Holds for the two operators that look for a text within a text. -/
def isContainment : Operator → Bool
  | .contains | .notContains => true
  | _ => false

/-- Holds for the three operators that deny another one. -/
def isNegated : Operator → Bool
  | .notEq | .notContains | .notIn => true
  | _ => false

/-- The operator that a negated one denies; any other operator is its own. -/
def positive : Operator → Operator
  | .notEq => .eq
  | .notContains => .contains
  | .notIn => .isIn
  | op => op

/-- Whether a comparison with the given outcome satisfies the operator. Operators that do not
compare are never satisfied. -/
def accepts : Operator → Ordering → Bool
  | .eq, o => o == .eq
  | .notEq, o => o != .eq
  | .gt, o => o == .gt
  | .gte, o => o != .lt
  | .lt, o => o == .lt
  | .lte, o => o != .gt
  | _, _ => false

theorem mem_all (op : Operator) : op ∈ all := by
  cases op <;> decide

@[simp] theorem ofSymbol?_symbol (op : Operator) : ofSymbol? op.symbol = some op := by
  cases op <;> decide +kernel

theorem symbol_of_ofSymbol? {s : String} {op : Operator} (h : ofSymbol? s = some op) :
    op.symbol = s := by
  simpa using List.find?_some h

@[simp] theorem isNegated_positive (op : Operator) : op.positive.isNegated = false := by
  cases op <;> rfl

@[simp] theorem kind_positive (op : Operator) : op.positive.kind = op.kind := by
  cases op <;> rfl

end Operator

end RecordQuery
