import RecordQuery.Inbox.Basic
import RecordQuery.Query.Wire
import RecordQuery.Time.Relaxed

/-!
# The inbox in JSON

* `Notification`, `InboxOutputs` and `InboxRequest` to and from JSON;
* `InboxResult.toJson`, the JSON form of an answer;
* `Notification.listReader` and `Notification.listOfJson`, for lists of notifications.
-/

namespace RecordQuery

namespace Uuid

/-- The JSON form of an identifier. -/
def toJson (u : Uuid) : Json :=
  .string (String.ofList u.render)

/-- The reader of identifiers. -/
def reader : Reader Uuid :=
  .parsed "a formatted UUID string" fun s => (read s.toList).mapError .uuid

end Uuid

namespace Instant

/-- The JSON form of an instant. -/
def toJson (t : Instant) : Json :=
  .string (String.ofList t.render)

/-- The reader of instants. -/
def reader : Reader Instant :=
  .parsed "an RFC 3339 formatted date and time string" fun s =>
    (readRelaxed s.toList).mapError .instant

end Instant

namespace Notification

/-- The JSON form of a notification. -/
def toJson (n : Notification) : Json :=
  .object ([("id", n.id.toJson), ("recipientId", .string n.recipient),
    ("subject", .string n.subject), ("body", .string n.body), ("isRead", .bool n.isRead),
    ("createdAt", n.createdAt.toJson)] ++
    Json.optional "readById" .string n.readBy ++ Json.optional "readAt" Instant.toJson n.readAt)

/-- The JSON form of a list of notifications. -/
def listToJson (ns : List Notification) : Json :=
  .array (ns.map toJson)

/-- The members of a notification. -/
def shape : RecordShape Notification where
  name := "Notification"
  strict := false
  start := { id := default, recipient := "", subject := "", body := "", createdAt := .epoch }
  members := [
    .mandatory "id" Uuid.reader fun n v => { n with id := v },
    .mandatory "recipientId" .text fun n v => { n with recipient := v },
    .mandatory "subject" .text fun n v => { n with subject := v },
    .mandatory "body" .text fun n v => { n with body := v },
    .optional "isRead" .flag fun n v => { n with isRead := v },
    .mandatory "createdAt" Instant.reader fun n v => { n with createdAt := v },
    .optional "readById" (.nullable .text) fun n v => { n with readBy := v },
    .optional "readAt" (.nullable Instant.reader) fun n v => { n with readAt := v }]

/-- The reader of notifications. -/
def reader : Reader Notification :=
  shape.reader

/-- The reader of lists of notifications. -/
def listReader : Reader (List Notification) :=
  .list reader

/-- The notifications that a JSON value stands for. -/
def listOfJson (v : Json) : Except Fault (List Notification) :=
  listReader.decodeJson v

end Notification

namespace InboxOutputs

/-- The JSON form of outputs. -/
def toJson (o : InboxOutputs) : Json :=
  .object [("items", .bool o.items), ("totalCount", .bool o.totalCount),
    ("totalMatchCount", .bool o.totalMatchCount), ("totalUnread", .bool o.totalUnread)]

/-- The members of outputs. -/
def shape : RecordShape InboxOutputs where
  name := "InboxInclude"
  strict := false
  start := {}
  members := [
    .optional "items" .flag fun o v => { o with items := v },
    .optional "totalCount" .flag fun o v => { o with totalCount := v },
    .optional "totalMatchCount" .flag fun o v => { o with totalMatchCount := v },
    .optional "totalUnread" .flag fun o v => { o with totalUnread := v }]

/-- The reader of outputs. -/
def reader : Reader InboxOutputs :=
  shape.reader

end InboxOutputs

namespace InboxRequest

/-- The JSON form of a request. -/
def toJson (r : InboxRequest) : Json :=
  .object (Json.optional "recipientId" .string r.recipient ++
    Json.optional "filter" Filter.toJson r.filter ++ Query.sortMember r.sort ++
    Json.optional "page" Page.toJson r.page ++ [("include", r.outputs.toJson)])

/-- The members of a request. -/
def shape : RecordShape InboxRequest where
  name := "GetNotifications"
  strict := true
  start := {}
  members := [
    .optional "recipientId" (.nullable .text) fun r v => { r with recipient := v },
    .optional "filter" (.nullable Filter.read) fun r v => { r with filter := v },
    .optional "sort" (.list SortRule.reader) fun r v => { r with sort := v },
    .optional "page" (.nullable Page.reader) fun r v => { r with page := v },
    .optional "include" InboxOutputs.reader fun r v => { r with outputs := v }]

/-- The reader of requests. -/
def reader : Reader InboxRequest :=
  shape.reader

end InboxRequest

/-- The JSON form of an answer. -/
def InboxResult.toJson (r : InboxResult) : Json :=
  .object (Json.optional "items" Notification.listToJson r.items ++
    Json.optional "totalCount" .nat r.totalCount ++
    Json.optional "totalMatchCount" .nat r.totalMatchCount ++
    Json.optional "totalUnread" .nat r.totalUnread)

end RecordQuery
