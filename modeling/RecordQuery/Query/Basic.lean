import RecordQuery.Compiler

/-!
# Queries

* `Page`, a window on a list, and `Outputs`, what a query answers;
* `Query`, an optional filter, sort rules, an optional page and the outputs;
* `Query.selected`, `Query.arranged` and `Query.shown`, the steps of an answer, and `Query.execute`,
  which filters, counts, sorts and pages records;
* `QueryResult`, the answer.
-/

namespace RecordQuery

variable {R S : Type}

/-- A window on a list: how many items to skip and how many to take at most. -/
structure Page where
  skip : UInt64 := 0
  take : Option UInt64 := none
  deriving DecidableEq

/-- The items in the window. -/
def Page.apply (p : Page) (items : List R) : List R :=
  match p.take with
  | some n => (items.drop p.skip.toNat).take n.toNat
  | none => items.drop p.skip.toNat

/-- What a query answers. -/
structure Outputs where
  items : Bool := true
  totalCount : Bool := false
  totalMatchCount : Bool := false
  deriving DecidableEq

namespace Outputs

/-- Everything. -/
def all : Outputs :=
  ⟨true, true, true⟩

/-- The counts alone. -/
def counts : Outputs :=
  ⟨false, true, true⟩

end Outputs

/-- A request for records. -/
structure Query where
  filter : Option Filter := none
  sort : List SortRule := []
  page : Option Page := none
  outputs : Outputs := {}

/-- The answer to a query; what was not asked for is absent. -/
structure QueryResult (α : Type) where
  items : Option (List α)
  totalCount : Option Nat
  totalMatchCount : Option Nat

/-- The result with every item mapped. -/
def QueryResult.map (r : QueryResult R) (f : R → S) : QueryResult S :=
  { r with items := r.items.map (·.map f) }

/-- The value if it is asked for. -/
def onlyIf {α : Type} (asked : Bool) (a : α) : Option α :=
  if asked then some a else none

namespace Query

/-- The compiled filter, if there is one. -/
def compiledFilter (q : Query) (c : Compiler R) : Except CompileError (Option (Predicate R)) :=
  match q.filter with
  | some f => return some (← c.compileFilter f)
  | none => return none

/-- The compiled sort order, if there are rules. -/
def compiledSort (q : Query) (c : Compiler R) : Except CompileError (Option (SortOrder R)) :=
  if q.sort.isEmpty then return none else return some (← c.compileSort q.sort)

/-- The records for which the predicate holds; without one, all. -/
def selected (predicate : Option (Predicate R)) (records : List R) : List R :=
  match predicate with
  | some p => p.filter records
  | none => records

/-- The records in the order; without one, as they are. -/
def arranged (order : Option (SortOrder R)) (records : List R) : List R :=
  match order with
  | some o => o.sort records
  | none => records

/-- The records in the window; without one, all. -/
def shown (page : Option Page) (records : List R) : List R :=
  match page with
  | some p => p.apply records
  | none => records

/-- Answers a query from records. The filter is compiled before the sort rules, and both before a
record is looked at. -/
def execute (q : Query) (c : Compiler R) (records : List R) :
    Except CompileError (QueryResult R) := do
  let predicate ← q.compiledFilter c
  let order ← q.compiledSort c
  let found := selected predicate records
  return {
    items := onlyIf q.outputs.items (shown q.page (arranged order found))
    totalCount := onlyIf q.outputs.totalCount records.length
    totalMatchCount := onlyIf q.outputs.totalMatchCount found.length }

end Query

end RecordQuery
