import RecordQuery.Proofs.Inbox.Run
import RecordQuery.Proofs.Inbox.Unread
import RecordQuery.Proofs.Sort.Passes

/-!
# Marking what is unread

* `Notification.afterCall_afterCall`, which shows that a notification is marked once, however often
  it is listed;
* `Inbox.unreadTo_markRead`, the unread notifications that a call leaves;
* `Inbox.markRead_of_forall`, a call that finds nothing to mark;
* `Inbox.unreadIds_markRead`, which tells the list of unread notifications after a call from the list
  before it.
-/

namespace RecordQuery

variable {ids : List Uuid} {reader : String} {time : Instant}

namespace Notification

theorem afterCall_of_not_mem {n : Notification} (hid : n.id ∉ ids) (reader : String)
    (time : Instant) : n.afterCall (.markRead ids reader time) = n :=
  afterCall_of_not_lists (show ¬(InboxCall.markRead ids reader time).Lists n.id from hid)

/-- A notification is read after a call if it was read before it or the call lists it. -/
theorem isRead_afterCall_markRead (n : Notification) :
    (n.afterCall (.markRead ids reader time)).isRead = (n.isRead || decide (n.id ∈ ids)) := by
  cases hread : n.isRead with
  | true => rw [afterCall_of_isRead hread, hread, Bool.true_or]
  | false =>
    by_cases hid : n.id ∈ ids
    · rw [afterCall_markRead hread hid, decide_eq_true hid]
      rfl
    · rw [afterCall_of_not_mem hid, hread, decide_eq_false hid]
      rfl

theorem recipient_afterCall (n : Notification) (c : InboxCall) :
    (n.afterCall c).recipient = n.recipient :=
  (afterCalls_fate n [c]).recipient_eq

/-- A second call that lists the same notifications finds each of them read. -/
theorem afterCall_afterCall (n : Notification) (reader' : String) (time' : Instant) :
    (n.afterCall (.markRead ids reader time)).afterCall (.markRead ids reader' time') =
      n.afterCall (.markRead ids reader time) := by
  by_cases hid : n.id ∈ ids
  · refine afterCall_of_isRead ?_ _
    rw [isRead_afterCall_markRead, decide_eq_true hid, Bool.or_true]
  · rw [afterCall_of_not_mem hid, afterCall_of_not_mem hid]

end Notification

namespace Inbox

theorem markRead_notifications (b : Inbox) :
    (b.markRead ids reader time).1.notifications =
      b.notifications.map (·.afterCall (.markRead ids reader time)) :=
  (b.call_notifications (.markRead ids reader time)).trans (List.append_nil _)

/-- A call leaves unread what was unread and is not in its list. -/
theorem unreadTo_markRead (b : Inbox) (recipient : String) :
    unreadTo recipient (b.markRead ids reader time).1.notifications =
      (unreadTo recipient b.notifications).filter fun n => n.id ∉ ids := by
  have hkept : ∀ n : Notification,
      ((n.afterCall (.markRead ids reader time)).recipient == recipient &&
        !(n.afterCall (.markRead ids reader time)).isRead) =
      (decide (n.id ∉ ids) && (n.recipient == recipient && !n.isRead)) := by
    intro n
    rw [n.recipient_afterCall, n.isRead_afterCall_markRead]
    by_cases hid : n.id ∈ ids <;> simp [hid]
  -- What is kept is left as it is, since the call does not list it.
  have hsame : ∀ n ∈ (unreadTo recipient b.notifications).filter (fun n => n.id ∉ ids),
      n.afterCall (.markRead ids reader time) = n := by
    intro n hn
    have hid : n.id ∉ ids := of_decide_eq_true (List.mem_filter.1 hn).2
    exact Notification.afterCall_of_not_mem hid reader time
  calc unreadTo recipient (b.markRead ids reader time).1.notifications
      = ((unreadTo recipient b.notifications).filter fun n => n.id ∉ ids).map
          (·.afterCall (.markRead ids reader time)) := by
        rw [markRead_notifications, unreadTo, unreadTo, List.filter_map, List.filter_filter]
        exact congrArg (List.map _) (List.filter_congr fun n _ => hkept n)
    _ = (unreadTo recipient b.notifications).filter fun n => n.id ∉ ids :=
        (List.map_congr_left hsame).trans (List.map_id _)

/-- A call that finds nothing to mark counts nothing and leaves the inbox as it is. -/
theorem markRead_of_forall {b : Inbox}
    (h : ∀ n ∈ b.notifications, n.afterCall (.markRead ids reader time) = n) :
    b.markRead ids reader time = (b, 0) := by
  have hnotifications : (b.markRead ids reader time).1.notifications = b.notifications := by
    rw [markRead_notifications]
    exact (List.map_congr_left h).trans (List.map_id _)
  have hcount : (b.markRead ids reader time).2 = 0 := by
    refine (b.call_count (.markRead ids reader time)).trans (List.countP_eq_zero.2 ?_)
    intro n hn
    rw [h n hn]
    simp
  exact Prod.ext (congrArg (Inbox.mk · b.limits) hnotifications) hcount

/-- A call takes from the unread notifications to each recipient those that it lists, and leaves the
others in their order. So nothing is left after a call for all of them, and a call that is made again
changes nothing. -/
theorem unreadIds_markRead (b : Inbox) (ids : List Uuid) (reader : String) (time : Instant) :
    (∀ recipient, (b.markRead ids reader time).1.unreadIds recipient =
      (b.unreadIds recipient).filter fun id => id ∉ ids) ∧
    (∀ recipient, (b.markRead (b.unreadIds recipient) reader time).1.unreadIds recipient = []) ∧
    ∀ reader' time', (b.markRead ids reader time).1.markRead ids reader' time' =
      ((b.markRead ids reader time).1, 0) := by
  have hids : ∀ ids recipient, (b.markRead ids reader time).1.unreadIds recipient =
      (b.unreadIds recipient).filter fun id => id ∉ ids := by
    intro ids recipient
    obtain ⟨o, -, hcompare⟩ := exists_compile_createdAt b
    rw [← sort_unreadTo _ recipient hcompare, unreadTo_markRead, SortOrder.sort_filter,
      ← sort_unreadTo b recipient hcompare, List.filter_map]
    rfl
  refine ⟨hids ids, fun recipient => ?_, fun reader' time' => markRead_of_forall ?_⟩
  · rw [hids, List.filter_eq_nil_iff]
    intro id hid
    simp [hid]
  · intro m hm
    rw [markRead_notifications] at hm
    obtain ⟨n, -, rfl⟩ := List.mem_map.1 hm
    exact n.afterCall_afterCall reader' time'

/-- One of three unread notifications is taken by a call that also lists one that is read, one to
someone else and one that is not there. The call made again by another reader changes nothing. -/
theorem unreadIds_markRead_one_of_three :
    let later : Instant := ⟨60, 0, by decide, by decide⟩
    let sent (id : BitVec 128) (t : Instant) : Notification :=
      { id := ⟨id⟩, recipient := "alice", subject := "", body := "", createdAt := t }
    let b : Inbox := ⟨[sent 1 later, sent 2 .epoch, { sent 3 .epoch with recipient := "bob" },
      sent 4 .epoch, { sent 5 .epoch with isRead := true }], {}⟩
    let ids : List Uuid := [⟨9⟩, ⟨5⟩, ⟨2⟩, ⟨3⟩]
    let marked := (b.markRead ids "carol" later).1
    b.unreadIds "alice" = [⟨2⟩, ⟨4⟩, ⟨1⟩] ∧ marked.unreadIds "alice" = [⟨4⟩, ⟨1⟩] ∧
      (b.markRead [⟨2⟩, ⟨4⟩, ⟨1⟩] "carol" later).1.unreadIds "alice" = [] ∧
      marked.markRead ids "dave" .epoch = (marked, 0) := by
  intro later sent b ids marked
  have hunread : b.notifications.filter (fun n => n.recipient == "alice" && !n.isRead) =
      [sent 1 later, sent 2 .epoch, sent 4 .epoch] := by decide +kernel
  have hlater : later.compare .epoch = .gt := by decide
  have htie : Instant.epoch.compare .epoch = .eq := by decide
  have hbefore : b.unreadIds "alice" = [⟨2⟩, ⟨4⟩, ⟨1⟩] := by
    rw [unreadIds, hunread]
    simp [List.mergeSort, sent, hlater, htie]
  obtain ⟨hafter, hnone, hagain⟩ := unreadIds_markRead b ids "carol" later
  refine ⟨hbefore, ?_, hbefore ▸ hnone "alice", hagain "dave" .epoch⟩
  rw [hafter, hbefore]
  decide

end Inbox

end RecordQuery
