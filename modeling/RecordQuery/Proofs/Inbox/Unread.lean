import RecordQuery.Proofs.Inbox.Scope

/-!
# The unread notifications to a recipient

They are listed from the notifications themselves, and a request can ask for them by its filter and
its sort rules. Both ways give the same.

* `unreadTo`, the unread notifications to a recipient;
* `exists_compile_isRead` and `exists_compile_createdAt`, the predicate and the order of the
  request, told from the notifications;
* `countUnread_eq`, the number of unread notifications that requests answer;
* `unreadIds_eq_query`, which joins the two ways.
-/

namespace RecordQuery

open Outcome

/-- The unread notifications to a recipient, as they came. -/
def unreadTo (recipient : String) (ns : List Notification) : List Notification :=
  ns.filter fun n => n.recipient == recipient && !n.isRead

namespace Inbox

variable {recipient : String}

/-- A filter for what is not read selects the unread notifications, however it writes false. -/
theorem exists_compile_isRead (c : Compiler Notification)
    (hfields : c.fields = Notification.fields) {operand : Operand}
    (hfalse : coerce Notification.isReadField .bool operand = .ok (.bool false)) :
    ∃ p, c.compileFilter (.value Notification.isReadField .eq operand) = .ok p ∧
      ∀ recipient ns, p.filter (addressedTo recipient ns) = unreadTo recipient ns := by
  have hfind : c.fields.find? Notification.isReadField = some (.bool fun n => some n.isRead) := by
    rw [hfields]
    rfl
  obtain ⟨p, hp, hholds⟩ := Compiler.exists_compile_eq hfind hfalse
  refine ⟨p, hp, fun recipient ns => ?_⟩
  have hunread : ∀ n, p.holds n = !n.isRead := by
    intro n
    rw [Bool.eq_iff_iff, hholds, Bool.not_eq_true']
    show Value.bool n.isRead = .bool false ↔ _
    rw [Value.bool.injEq]
  rw [Predicate.filter, addressedTo, List.filter_filter, unreadTo]
  exact List.filter_congr fun n _ => by rw [hunread, Bool.and_comm]

/-- The rule for the time of creation orders notifications by it. -/
theorem exists_compile_createdAt (b : Inbox) :
    ∃ o, b.compiler.compileSort [⟨Notification.createdAtField, .asc⟩] = .ok o ∧
      ∀ m n, o.compare m n = m.createdAt.compare n.createdAt := by
  let key : SortKey Notification :=
    ⟨Notification.createdAtField, .timestamp fun n => some n.createdAt, .asc⟩
  refine ⟨⟨[key]⟩, rfl, fun m n => ?_⟩
  show (m.createdAt.compare n.createdAt).then .eq = _
  exact Ordering.then_eq

/-- The notifications that are listed are the unread ones in the order of the rule. -/
theorem sort_unreadTo (b : Inbox) (recipient : String) {o : SortOrder Notification}
    (hcompare : ∀ m n, o.compare m n = m.createdAt.compare n.createdAt) :
    (o.sort (unreadTo recipient b.notifications)).map Notification.id = b.unreadIds recipient := by
  simp only [SortOrder.sort, hcompare]
  rfl

theorem length_unreadIds (b : Inbox) (recipient : String) :
    (b.unreadIds recipient).length = (unreadTo recipient b.notifications).length := by
  rw [unreadIds, List.length_map, List.length_mergeSort]
  rfl

/-- Requests to a recipient count the unread notifications that are listed. -/
theorem countUnread_eq (b : Inbox) (recipient : String) (asked : Bool) :
    b.countUnread asked (addressedTo recipient b.notifications) =
      .ok (onlyIf asked (b.unreadIds recipient).length) := by
  cases asked with
  | false => rfl
  | true =>
    have hfalse : coerce Notification.isReadField .bool (.typed (.bool false)) =
        .ok (.bool false) := rfl
    obtain ⟨p, hp, hfilter⟩ := exists_compile_isRead b.compiler rfl hfalse
    refine bind_eq_ok_iff.2 ⟨p, hp, ?_⟩
    rw [length_unreadIds, ← hfilter]
    exact congrArg (Except.ok <| some ·) List.countP_eq_length_filter

/-- The request for the unread notifications to a recipient, the oldest first. What it compares
with whether a notification is read may be written in any way. -/
def unreadRequest (recipient : String) (operand : Operand) (outputs : InboxOutputs) :
    InboxRequest where
  recipient := some recipient
  filter := some (.value Notification.isReadField .eq operand)
  sort := [⟨Notification.createdAtField, .asc⟩]
  page := none
  outputs := outputs

/-- The unread notifications to a recipient are listed as requests for them are answered: by a
filter and an order that are compiled under any limits, and by the number of those that are unread,
whatever else a request asks for. -/
theorem unreadIds_eq_query (b : Inbox) (recipient : String) :
    (∀ operand outputs, coerce Notification.isReadField .bool operand = .ok (.bool false) →
      outputs.items = true →
        ∃ result items, b.query (unreadRequest recipient operand outputs) = .ok result ∧
          result.items = some items ∧ b.unreadIds recipient = items.map Notification.id) ∧
    ∀ req result, req.recipient = some recipient → req.outputs.totalUnread = true →
      b.query req = .ok result → result.totalUnread = some (b.unreadIds recipient).length := by
  constructor
  · intro operand outputs hfalse hitems
    obtain ⟨p, hp, hfilter⟩ := exists_compile_isRead b.compiler rfl hfalse
    obtain ⟨o, ho, hcompare⟩ := exists_compile_createdAt b
    have hunread := countUnread_eq b recipient outputs.totalUnread
    have hfiltered : (unreadRequest recipient operand outputs).query.compiledFilter b.compiler =
        .ok (some p) := bind_eq_ok_iff.2 ⟨p, hp, rfl⟩
    have hsorted : (unreadRequest recipient operand outputs).query.compiledSort b.compiler =
        .ok (some o) := bind_eq_ok_iff.2 ⟨o, ho, rfl⟩
    refine ⟨_, _, query_eq_ok_iff.2 ⟨_, scope_eq b recipient, _, hunread, _,
      Query.execute_eq_ok_iff.2 ⟨_, hfiltered, _, hsorted, rfl⟩, rfl⟩, if_pos hitems, ?_⟩
    show _ = (o.sort (p.filter _)).map _
    rw [hfilter, sort_unreadTo b recipient hcompare]
  · intro req result hreq hasked h
    obtain ⟨addressed, hscope, unread, hunread, answer, -, rfl⟩ := query_eq_ok_iff.1 h
    rw [hreq, scope_eq] at hscope
    obtain rfl := Except.ok.inj hscope
    rw [countUnread_eq, hasked] at hunread
    exact (Except.ok.inj hunread).symm

/-- A leap second comes before the second after it, and notifications of one time stay as they
came, also where neither nesting nor a list of values is allowed. -/
theorem unreadIds_leap_second :
    let leap : Instant := ⟨1483228799, 1500000000, by decide, by decide⟩
    let next : Instant := ⟨1483228800, 0, by decide, by decide⟩
    let sent (id : BitVec 128) (t : Instant) : Notification :=
      { id := ⟨id⟩, recipient := "alice", subject := "", body := "", createdAt := t }
    let b : Inbox := ⟨[sent 1 next, sent 2 leap, { sent 3 leap with recipient := "bob" },
      sent 4 leap, { sent 5 leap with isRead := true }], ⟨0, 0⟩⟩
    let req := unreadRequest "alice" (.literal ⟨.string "false", trivial⟩) .all
    b.unreadIds "alice" = [⟨2⟩, ⟨4⟩, ⟨1⟩] ∧
      ∃ result items, b.query req = .ok result ∧ result.items = some items ∧
        items.map Notification.id = [⟨2⟩, ⟨4⟩, ⟨1⟩] ∧ result.totalUnread = some 3 := by
  intro leap next sent b req
  have hunread : b.notifications.filter (fun n => n.recipient == "alice" && !n.isRead) =
      [sent 1 next, sent 2 leap, sent 4 leap] := by decide +kernel
  have hlater : next.compare leap = .gt := by decide
  have htie : leap.compare leap = .eq := by decide
  have hids : b.unreadIds "alice" = [⟨2⟩, ⟨4⟩, ⟨1⟩] := by
    rw [unreadIds, hunread]
    simp [List.mergeSort, sent, hlater, htie]
  obtain ⟨hquery, hcount⟩ := unreadIds_eq_query b "alice"
  obtain ⟨result, items, hresult, hitems, heq⟩ :=
    hquery (.literal ⟨.string "false", trivial⟩) .all rfl rfl
  refine ⟨hids, result, items, hresult, hitems, heq.symm.trans hids, ?_⟩
  rw [hcount req result rfl rfl hresult, hids]
  rfl

end Inbox

end RecordQuery
