import RecordQuery.Inbox.Notification
import RecordQuery.Query.Basic

/-!
# The inbox

* `Inbox`, notifications in the order in which they came, and the limits on requests;
* `InboxRequest`, a query that may be narrowed to one recipient and may ask for the unread count;
* `Inbox.query`, which narrows, counts the unread and answers the rest as a query;
* `Inbox.unreadIds`, `Inbox.push` and `Inbox.markRead`.
-/

namespace RecordQuery

/-- What a request answers. -/
structure InboxOutputs where
  items : Bool := true
  totalCount : Bool := false
  totalMatchCount : Bool := false
  totalUnread : Bool := false
  deriving DecidableEq

namespace InboxOutputs

/-- Everything. -/
def all : InboxOutputs :=
  ⟨true, true, true, true⟩

/-- The outputs of the query within the request. -/
def outputs (o : InboxOutputs) : Outputs :=
  ⟨o.items, o.totalCount, o.totalMatchCount⟩

end InboxOutputs

/-- A request for notifications. -/
structure InboxRequest where
  recipient : Option String := none
  filter : Option Filter := none
  sort : List SortRule := []
  page : Option Page := none
  outputs : InboxOutputs := {}

/-- The query within a request. -/
def InboxRequest.query (r : InboxRequest) : Query :=
  { filter := r.filter, sort := r.sort, page := r.page, outputs := r.outputs.outputs }

/-- The answer to a request; what was not asked for is absent. -/
structure InboxResult where
  items : Option (List Notification)
  totalCount : Option Nat
  totalMatchCount : Option Nat
  totalUnread : Option Nat

/-- Notifications in the order in which they came. -/
structure Inbox where
  notifications : List Notification
  limits : Limits := {}

namespace Inbox

/-- What requests are compiled against. -/
def compiler (b : Inbox) : Compiler Notification :=
  ⟨Notification.fields, b.limits⟩

/-- The inbox with one more notification. -/
def push (b : Inbox) (n : Notification) : Inbox :=
  { b with notifications := b.notifications ++ [n] }

/-- The filter for the notifications to a recipient. -/
def toRecipient (recipient : String) : Filter :=
  .value Notification.recipientField .eq (.typed (.text recipient))

/-- The filter for the notifications that are not read. -/
def unread : Filter :=
  .value Notification.isReadField .eq (.typed (.bool false))

/-- The notifications that a request is about. -/
def scope (b : Inbox) (recipient : Option String) : Except CompileError (List Notification) :=
  match recipient with
  | some r => return (← b.compiler.compileFilter (toRecipient r)).filter b.notifications
  | none => return b.notifications

/-- The number of unread notifications among some, if it is asked for. -/
def countUnread (b : Inbox) (asked : Bool) (addressed : List Notification) :
    Except CompileError (Option Nat) :=
  if asked then return some ((← b.compiler.compileFilter unread).count addressed) else return none

/-- Answers a request from the notifications to its recipient alone. -/
def query (b : Inbox) (r : InboxRequest) : Except CompileError InboxResult := do
  let addressed ← b.scope r.recipient
  let totalUnread ← b.countUnread r.outputs.totalUnread addressed
  let result ← r.query.execute b.compiler addressed
  return ⟨result.items, result.totalCount, result.totalMatchCount, totalUnread⟩

/-- The identifiers of the unread notifications to a recipient, the oldest first. -/
def unreadIds (b : Inbox) (recipient : String) : List Uuid :=
  let unread := b.notifications.filter fun n => n.recipient == recipient && !n.isRead
  (unread.mergeSort fun m n => (m.createdAt.compare n.createdAt).isLE).map Notification.id

/-- Whether a notification is unread and among those to be marked. -/
def isMarked (ids : List Uuid) (n : Notification) : Bool :=
  !n.isRead && ids.contains n.id

/-- Marks the unread notifications with the given identifiers, and counts them. -/
def markRead (b : Inbox) (ids : List Uuid) (reader : String) (at' : Instant) : Inbox × Nat :=
  ({ b with notifications :=
      b.notifications.map fun n => if isMarked ids n then n.markRead reader at' else n },
    b.notifications.countP (isMarked ids))

end Inbox

end RecordQuery
