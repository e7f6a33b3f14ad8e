import RecordQuery.Filter.Wire
import RecordQuery.Query.Basic

/-!
# Queries in JSON

* `Direction`, `SortRule`, `Page`, `Outputs`, `Limits` and `Query` to and from JSON;
* `QueryResult.toJson`, the JSON form of an answer.

Members that are absent, and an empty list of sort rules, are left out.
-/

namespace RecordQuery

namespace FieldType

/-- The JSON form of a type is its name. -/
def toJson (t : FieldType) : Json :=
  .string t.name

/-- The reader of types. -/
def reader : Reader FieldType :=
  .variant (all.map name) ofName?

end FieldType

namespace Direction

/-- The JSON form of a direction is its name. -/
def toJson (d : Direction) : Json :=
  .string d.name

/-- The reader of directions. -/
def reader : Reader Direction :=
  .variant ["asc", "desc"] ofName?

end Direction

namespace SortRule

/-- The JSON form of a sort rule. -/
def toJson (r : SortRule) : Json :=
  .object [("fieldId", .string r.field), ("direction", r.direction.toJson)]

/-- The members of a sort rule. -/
def shape : RecordShape SortRule where
  name := "SortRule"
  strict := false
  start := { field := "" }
  members := [
    .mandatory "fieldId" .text fun r v => { r with field := v },
    .optional "direction" Direction.reader fun r v => { r with direction := v }]

/-- The reader of sort rules. -/
def reader : Reader SortRule :=
  shape.reader

end SortRule

namespace Json

/-- A member that is left out where there is no value. -/
def optional {α : Type} (key : String) (toJson : α → Json) (a : Option α) :
    List (String × Json) :=
  match a with
  | some a => [(key, toJson a)]
  | none => []

end Json

namespace Page

/-- The JSON form of a page. -/
def toJson (p : Page) : Json :=
  .object (("skip", .nat p.skip.toNat) :: Json.optional "take" (.nat ·.toNat) p.take)

/-- The members of a page. -/
def shape : RecordShape Page where
  name := "Page"
  strict := false
  start := {}
  members := [
    .optional "skip" .count fun p v => { p with skip := v },
    .optional "take" (.nullable .count) fun p v => { p with take := v }]

/-- The reader of pages. -/
def reader : Reader Page :=
  shape.reader

end Page

namespace Outputs

/-- The JSON form of outputs. -/
def toJson (o : Outputs) : Json :=
  .object [("items", .bool o.items), ("totalCount", .bool o.totalCount),
    ("totalMatchCount", .bool o.totalMatchCount)]

/-- The members of outputs. -/
def shape : RecordShape Outputs where
  name := "Include"
  strict := false
  start := {}
  members := [
    .optional "items" .flag fun o v => { o with items := v },
    .optional "totalCount" .flag fun o v => { o with totalCount := v },
    .optional "totalMatchCount" .flag fun o v => { o with totalMatchCount := v }]

/-- The reader of outputs. -/
def reader : Reader Outputs :=
  shape.reader

end Outputs

namespace Limits

/-- The JSON form of limits. -/
def toJson (l : Limits) : Json :=
  .object [("maxDepth", .nat l.maxDepth), ("maxValues", .nat l.maxValues)]

/-- The members of limits. -/
def shape : RecordShape Limits where
  name := "CompilerConfig"
  strict := true
  start := {}
  members := [
    .optional "maxDepth" .count fun l v => { l with maxDepth := v.toNat },
    .optional "maxValues" .count fun l v => { l with maxValues := v.toNat }]

/-- The reader of limits. -/
def reader : Reader Limits :=
  shape.reader

end Limits

namespace Query

/-- The sort rules as a member, left out where there are none. -/
def sortMember (rules : List SortRule) : List (String × Json) :=
  if rules.isEmpty then [] else [("sort", .array (rules.map SortRule.toJson))]

/-- The JSON form of a query. -/
def toJson (q : Query) : Json :=
  .object (Json.optional "filter" Filter.toJson q.filter ++ sortMember q.sort ++
    Json.optional "page" Page.toJson q.page ++ [("include", q.outputs.toJson)])

/-- The members of a query. -/
def shape : RecordShape Query where
  name := "Query"
  strict := true
  start := {}
  members := [
    .optional "filter" (.nullable Filter.read) fun q v => { q with filter := v },
    .optional "sort" (.list SortRule.reader) fun q v => { q with sort := v },
    .optional "page" (.nullable Page.reader) fun q v => { q with page := v },
    .optional "include" Outputs.reader fun q v => { q with outputs := v }]

/-- The reader of queries. -/
def reader : Reader Query :=
  shape.reader

/-- The query that a JSON value stands for. -/
def ofJson (v : Json) : Except Fault Query :=
  reader.decodeJson v

end Query

/-- The JSON form of an answer. -/
def QueryResult.toJson {α : Type} (itemToJson : α → Json) (r : QueryResult α) : Json :=
  .object (Json.optional "items" (fun items => .array (items.map itemToJson)) r.items ++
    Json.optional "totalCount" .nat r.totalCount ++
    Json.optional "totalMatchCount" .nat r.totalMatchCount)

end RecordQuery
