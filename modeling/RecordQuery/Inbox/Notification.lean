import RecordQuery.Field.Map

/-!
# Notifications

* `Notification`, a message to a recipient, unread or read by someone at some time;
* `Notification.markRead`, which records a reader;
* `Notification.fields`, the fields that requests may name. The body is not among them.
-/

namespace RecordQuery

/-- A message to a recipient. -/
structure Notification where
  id : Uuid
  recipient : String
  subject : String
  body : String
  isRead : Bool := false
  createdAt : Instant
  readBy : Option String := none
  readAt : Option Instant := none
  deriving DecidableEq

namespace Notification

/-- The notification as read by a reader at a time, whatever it was before. -/
def markRead (n : Notification) (reader : String) (at' : Instant) : Notification :=
  { n with isRead := true, readBy := some reader, readAt := some at' }

/-- The identifier of the field that holds the recipient. -/
def recipientField : String := "recipientId"

/-- The identifier of the field that tells whether a notification is read. -/
def isReadField : String := "isRead"

/-- The identifier of the field that holds the time of creation. -/
def createdAtField : String := "createdAt"

/-- The fields that requests may name. -/
def fields : FieldMap Notification :=
  .ofList [
    ("id", .uuid fun n => some n.id),
    (recipientField, .text fun n => some n.recipient),
    ("subject", .text fun n => some n.subject),
    (isReadField, .bool fun n => some n.isRead),
    (createdAtField, .timestamp fun n => some n.createdAt),
    ("readById", .text (·.readBy)),
    ("readAt", .timestamp (·.readAt))]

end Notification

end RecordQuery
