import RecordQuery.Inbox.Basic
import RecordQuery.Proofs.Query.Execution

/-!
# Requests see the notifications of one recipient

* `addressedTo`, the notifications to a recipient;
* `scope_eq`, which shows that a request that names a recipient is about these alone, whatever the
  limits are;
* `query_confined`, which shows that nothing else in the inbox has an influence on the answer.
-/

namespace RecordQuery

open Outcome

/-- The notifications to a recipient, as they came. -/
def addressedTo (recipient : String) (ns : List Notification) : List Notification :=
  ns.filter fun n => n.recipient == recipient

theorem mem_addressedTo_iff {recipient : String} {ns : List Notification} {n : Notification} :
    n ∈ addressedTo recipient ns ↔ n ∈ ns ∧ n.recipient = recipient := by
  rw [addressedTo, List.mem_filter, beq_iff_eq]

namespace Inbox

/-- The filter for a recipient is a leaf, so it is compiled under any limits. -/
theorem exists_compile_toRecipient (c : Compiler Notification)
    (hfields : c.fields = Notification.fields) (recipient : String) :
    ∃ p, c.compileFilter (toRecipient recipient) = .ok p ∧
      ∀ n, p.holds n = true ↔ n.recipient = recipient := by
  have hfind : c.fields.find? Notification.recipientField =
      some (.text fun n => some n.recipient) := by rw [hfields]; rfl
  have hcoerce : coerce Notification.recipientField .text (.typed (.text recipient)) =
      .ok (.text recipient) := rfl
  obtain ⟨p, hp, hholds⟩ := Compiler.exists_compile_eq hfind hcoerce
  refine ⟨p, hp, fun n => (hholds n).trans ?_⟩
  show Value.text n.recipient = .text recipient ↔ _
  rw [Value.text.injEq]

theorem scope_eq (b : Inbox) (recipient : String) :
    b.scope (some recipient) = .ok (addressedTo recipient b.notifications) := by
  obtain ⟨p, hp, hholds⟩ := exists_compile_toRecipient b.compiler rfl recipient
  have hfilter : p.filter b.notifications = addressedTo recipient b.notifications := by
    refine List.filter_congr fun n _ => ?_
    rw [Bool.eq_iff_iff, hholds, beq_iff_eq]
  rw [scope, hp, ← hfilter]
  rfl

/-- The steps of an answer. -/
theorem query_eq_ok_iff {b : Inbox} {req : InboxRequest} {result : InboxResult} :
    b.query req = .ok result ↔ ∃ addressed, b.scope req.recipient = .ok addressed ∧
      ∃ unread, b.countUnread req.outputs.totalUnread addressed = .ok unread ∧
        ∃ answer, req.query.execute b.compiler addressed = .ok answer ∧
          ⟨answer.items, answer.totalCount, answer.totalMatchCount, unread⟩ = result := by
  unfold query
  simp only [bind_eq_ok_iff, pure, Except.pure, Except.ok.injEq]

theorem mem_addressedTo_of_mem_items {b : Inbox} {req : InboxRequest} {recipient : String}
    (hreq : req.recipient = some recipient) {result : InboxResult}
    (h : b.query req = .ok result) {items : List Notification}
    (hitems : result.items = some items) {n : Notification} (hn : n ∈ items) :
    n ∈ addressedTo recipient b.notifications := by
  obtain ⟨addressed, hscope, unread, -, answer, hanswer, rfl⟩ := query_eq_ok_iff.1 h
  rw [hreq, scope_eq] at hscope
  obtain rfl := Except.ok.inj hscope
  exact Query.mem_of_mem_items hanswer hitems hn

/-- Two inboxes with the same notifications to a recipient, in the same order, give the same answer
to a request that names the recipient, and it has no notification to anyone else. -/
theorem query_confined {limits : Limits} {ns ms : List Notification} {req : InboxRequest}
    {recipient : String} (hreq : req.recipient = some recipient)
    (hown : addressedTo recipient ns = addressedTo recipient ms) :
    query ⟨ns, limits⟩ req = query ⟨ms, limits⟩ req ∧
      ∀ result items, query ⟨ns, limits⟩ req = .ok result → result.items = some items →
        ∀ n ∈ items, n ∈ ns ∧ n.recipient = recipient := by
  constructor
  · unfold query
    rw [hreq, scope_eq, scope_eq, hown]
    rfl
  · intro result items h hitems n hn
    exact mem_addressedTo_iff.1 (mem_addressedTo_of_mem_items hreq h hitems hn)

theorem query_foreign_around :
    let own : Notification :=
      { id := default, recipient := "alice", subject := "report", body := "", createdAt := .epoch }
    let foreign : Notification := { own with recipient := "bob", isRead := true }
    let req : InboxRequest := { recipient := some "alice", outputs := .all }
    addressedTo "alice" [foreign, own, foreign] = addressedTo "alice" [own] ∧
      query ⟨[foreign, own, foreign], {}⟩ req = query ⟨[own], {}⟩ req := by
  intro own foreign req
  have hown : addressedTo "alice" [foreign, own, foreign] = addressedTo "alice" [own] := by
    decide +kernel
  exact ⟨hown, (query_confined rfl hown).1⟩

end Inbox

end RecordQuery
