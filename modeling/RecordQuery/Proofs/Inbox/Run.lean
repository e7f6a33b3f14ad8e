import Mathlib.Data.List.Forall2
import RecordQuery.Inbox.Basic

/-!
# Runs of an inbox

An inbox is changed by calls made one after the other: some add a notification, the others mark
those with given identifiers as read. Identifiers may be repeated, unknown, or shared by several
notifications.

* `InboxCall`, and `Inbox.run`, which makes calls and sums up what they count;
* `Inbox.arrivals`, the notifications in the order in which they came, each with the calls made after
  it;
* `Notification.Fate`, what becomes of a notification: the first call that lists it decides;
* `run_notifications` and `run_count`, which tell a run notification by notification, by induction
  from `call_notifications` and `call_count`;
* `run_fate`, which sums up what a run keeps, changes and counts.
-/

namespace RecordQuery

/-- A call that changes an inbox. -/
inductive InboxCall
  | push (n : Notification)
  | markRead (ids : List Uuid) (reader : String) (time : Instant)

namespace InboxCall

/-- The notification that a call adds. -/
def pushed? : InboxCall → Option Notification
  | push n => some n
  | markRead .. => none

/-- The call marks notifications, and the identifier is in its list. -/
def Lists (id : Uuid) : InboxCall → Prop
  | push _ => False
  | markRead ids _ _ => id ∈ ids

/-- Of the calls that list an identifier there is a first one. -/
theorem exists_first {id : Uuid} {cs : List InboxCall} (h : ∃ c ∈ cs, c.Lists id) :
    ∃ before ids reader time after, cs = before ++ markRead ids reader time :: after ∧
      (∀ c ∈ before, ¬c.Lists id) ∧ id ∈ ids := by
  induction cs with
  | nil => simp at h
  | cons c cs ih =>
    by_cases hc : c.Lists id
    · cases c with
      | push n => exact hc.elim
      | markRead ids reader time => exact ⟨[], ids, reader, time, cs, rfl, by simp, hc⟩
    · obtain ⟨c', hmem, hc'⟩ := h
      have htail : c' ∈ cs := (List.mem_cons.1 hmem).resolve_left fun heq => hc (heq ▸ hc')
      obtain ⟨before, ids, reader, time, after, rfl, hbefore, hid⟩ := ih ⟨c', htail, hc'⟩
      exact ⟨c :: before, ids, reader, time, after, rfl, List.forall_mem_cons.2 ⟨hc, hbefore⟩, hid⟩

end InboxCall

/-! ### One notification -/

namespace Notification

variable {n : Notification} {c : InboxCall} {cs : List InboxCall}

/-- The notification after a call, made while it is in the inbox. -/
def afterCall (n : Notification) : InboxCall → Notification
  | .push _ => n
  | .markRead ids reader time => if Inbox.isMarked ids n then n.markRead reader time else n

/-- The notification after calls made one after the other. -/
def afterCalls (n : Notification) (cs : List InboxCall) : Notification :=
  cs.foldl afterCall n

/-- What becomes of the notification `n`, of which `m` is left, by calls made after it came. -/
structure Fate (n : Notification) (later : List InboxCall) (m : Notification) : Prop where
  id_eq : m.id = n.id
  recipient_eq : m.recipient = n.recipient
  subject_eq : m.subject = n.subject
  body_eq : m.body = n.body
  createdAt_eq : m.createdAt = n.createdAt
  /-- What is read stays read, by the same reader and at the same time. -/
  stays_read : n.isRead = true →
    m.isRead = n.isRead ∧ m.readBy = n.readBy ∧ m.readAt = n.readAt
  /-- What is unread becomes read by being listed and by nothing else. -/
  isRead_iff : n.isRead = false → (m.isRead = true ↔ ∃ c ∈ later, c.Lists n.id)
  /-- The reader and the time are those of the first call that lists it. -/
  read_by_first : n.isRead = false → ∀ before ids reader time after,
    later = before ++ .markRead ids reader time :: after → (∀ c ∈ before, ¬c.Lists n.id) →
      n.id ∈ ids → m.readBy = some reader ∧ m.readAt = some time
  /-- What is never listed is left as it is. -/
  unlisted : (∀ c ∈ later, ¬c.Lists n.id) → m = n

theorem afterCall_of_isRead (h : n.isRead = true) (c : InboxCall) : n.afterCall c = n := by
  cases c with
  | push => rfl
  | markRead ids reader time => simp [afterCall, Inbox.isMarked, h]

theorem afterCall_of_not_lists (h : ¬c.Lists n.id) : n.afterCall c = n := by
  cases c with
  | push => rfl
  | markRead ids reader time =>
    have hid : n.id ∉ ids := h
    simp [afterCall, Inbox.isMarked, hid]

theorem afterCall_markRead (h : n.isRead = false) {ids : List Uuid} (hid : n.id ∈ ids)
    (reader : String) (time : Instant) :
    n.afterCall (.markRead ids reader time) = n.markRead reader time := by
  simp [afterCall, Inbox.isMarked, h, hid]

theorem afterCalls_cons (n : Notification) (c : InboxCall) (cs : List InboxCall) :
    n.afterCalls (c :: cs) = (n.afterCall c).afterCalls cs := rfl

theorem afterCalls_of_isRead (h : n.isRead = true) (cs : List InboxCall) : n.afterCalls cs = n := by
  induction cs with
  | nil => rfl
  | cons c cs ih => rw [afterCalls_cons, afterCall_of_isRead h, ih]

theorem afterCalls_of_not_lists (h : ∀ c ∈ cs, ¬c.Lists n.id) : n.afterCalls cs = n := by
  induction cs with
  | nil => rfl
  | cons c cs ih =>
    obtain ⟨hc, hcs⟩ := List.forall_mem_cons.1 h
    rw [afterCalls_cons, afterCall_of_not_lists hc, ih hcs]

/-- The first call that lists an unread notification marks it, and no later one changes it. -/
theorem afterCalls_of_first (h : n.isRead = false) {before : List InboxCall}
    (hbefore : ∀ c ∈ before, ¬c.Lists n.id) {ids : List Uuid} (hid : n.id ∈ ids) (reader : String)
    (time : Instant) (after : List InboxCall) :
    n.afterCalls (before ++ .markRead ids reader time :: after) = n.markRead reader time := by
  have hfirst : n.afterCalls before = n := afterCalls_of_not_lists hbefore
  have happend : n.afterCalls (before ++ .markRead ids reader time :: after) =
      (n.afterCalls before).afterCalls (.markRead ids reader time :: after) := List.foldl_append
  rw [happend, hfirst, afterCalls_cons, afterCall_markRead h hid]
  exact afterCalls_of_isRead rfl after

theorem fate_of_isRead (h : n.isRead = true) : n.Fate cs n where
  id_eq := rfl
  recipient_eq := rfl
  subject_eq := rfl
  body_eq := rfl
  createdAt_eq := rfl
  stays_read _ := ⟨rfl, rfl, rfl⟩
  isRead_iff hread := by simp [h] at hread
  read_by_first hread := by simp [h] at hread
  unlisted _ := rfl

theorem fate_of_not_lists (h : ∀ c ∈ cs, ¬c.Lists n.id) : n.Fate cs n where
  id_eq := rfl
  recipient_eq := rfl
  subject_eq := rfl
  body_eq := rfl
  createdAt_eq := rfl
  stays_read _ := ⟨rfl, rfl, rfl⟩
  isRead_iff hread := by
    refine iff_of_false (by simp [hread]) ?_
    rintro ⟨c, hc, hlists⟩
    exact h c hc hlists
  read_by_first _ before ids reader time after hcs _ hid := by
    subst hcs
    exact absurd hid (h (.markRead ids reader time) (by simp))
  unlisted _ := rfl

theorem fate_markRead (h : n.isRead = false) {before after : List InboxCall}
    (hbefore : ∀ c ∈ before, ¬c.Lists n.id) {ids : List Uuid} (hid : n.id ∈ ids) (reader : String)
    (time : Instant) :
    n.Fate (before ++ .markRead ids reader time :: after) (n.markRead reader time) where
  id_eq := rfl
  recipient_eq := rfl
  subject_eq := rfl
  body_eq := rfl
  createdAt_eq := rfl
  stays_read hread := by simp [h] at hread
  isRead_iff _ := iff_of_true rfl ⟨.markRead ids reader time, by simp, hid⟩
  read_by_first _ before' ids' reader' time' after' hcs hbefore' hid' := by
    -- However the first call is found, it is told by what the calls make of the notification.
    have hmarked := afterCalls_of_first h hbefore hid reader time after
    rw [hcs, afterCalls_of_first h hbefore' hid' reader' time' after'] at hmarked
    rw [← hmarked]
    exact ⟨rfl, rfl⟩
  unlisted hnone := absurd hid (hnone (.markRead ids reader time) (by simp))

theorem afterCalls_fate (n : Notification) (cs : List InboxCall) : n.Fate cs (n.afterCalls cs) := by
  cases hread : n.isRead with
  | true =>
    rw [afterCalls_of_isRead hread]
    exact fate_of_isRead hread
  | false =>
    by_cases hlisted : ∃ c ∈ cs, c.Lists n.id
    · obtain ⟨before, ids, reader, time, after, rfl, hbefore, hid⟩ := InboxCall.exists_first hlisted
      rw [afterCalls_of_first hread hbefore hid]
      exact fate_markRead hread hbefore hid reader time
    · have hnone : ∀ c ∈ cs, ¬c.Lists n.id := fun c hc hlists => hlisted ⟨c, hc, hlists⟩
      rw [afterCalls_of_not_lists hnone]
      exact fate_of_not_lists hnone

end Notification

/-! ### The whole inbox -/

namespace Inbox

/-- The inbox after a call, and the number of notifications that the call counts. -/
def call (b : Inbox) : InboxCall → Inbox × Nat
  | .push n => (b.push n, 0)
  | .markRead ids reader time => b.markRead ids reader time

/-- The inbox after calls made one after the other, and the sum of what they count. -/
def run (b : Inbox) : List InboxCall → Inbox × Nat
  | [] => (b, 0)
  | c :: cs =>
    let (b', changed) := b.call c
    let (final, rest) := b'.run cs
    (final, changed + rest)

theorem run_cons (b : Inbox) (c : InboxCall) (cs : List InboxCall) :
    b.run (c :: cs) =
      (((b.call c).1.run cs).1, (b.call c).2 + ((b.call c).1.run cs).2) := rfl

/-- A notification as it came, and the calls made after it. -/
structure Arrival where
  notification : Notification
  later : List InboxCall

/-- What is left of a notification. -/
def Arrival.final (a : Arrival) : Notification :=
  a.notification.afterCalls a.later

/-- The notification came unread, and what is left of it is read. -/
def Arrival.becomesRead (a : Arrival) : Bool :=
  !a.notification.isRead && a.final.isRead

/-- The notifications that calls add. -/
def pushes : List InboxCall → List Arrival
  | [] => []
  | .push n :: cs => ⟨n, cs⟩ :: pushes cs
  | .markRead .. :: cs => pushes cs

/-- The notifications that are there first, and then those that calls add. -/
def arrivals (ns : List Notification) (cs : List InboxCall) : List Arrival :=
  ns.map (⟨·, cs⟩) ++ pushes cs

theorem arrivals_notification (ns : List Notification) (cs : List InboxCall) :
    (arrivals ns cs).map Arrival.notification = ns ++ cs.filterMap InboxCall.pushed? := by
  have hpushes : (pushes cs).map Arrival.notification = cs.filterMap InboxCall.pushed? := by
    induction cs with
    | nil => rfl
    | cons c cs ih => cases c <;> simp [pushes, List.filterMap_cons, InboxCall.pushed?, ih]
  rw [arrivals, List.map_append, hpushes, List.map_map]
  exact congrArg (· ++ _) (List.map_id ns)

/-- What a call leaves of each notification, and what it adds behind them. -/
theorem call_notifications (b : Inbox) (c : InboxCall) :
    (b.call c).1.notifications =
      b.notifications.map (·.afterCall c) ++ c.pushed?.toList := by
  cases c with
  | push n => simp [call, push, InboxCall.pushed?, Notification.afterCall]
  | markRead ids reader time =>
    simp [call, markRead, InboxCall.pushed?, Notification.afterCall]

/-- A call counts the notifications that it turns from unread to read. -/
theorem call_count (b : Inbox) (c : InboxCall) :
    (b.call c).2 = b.notifications.countP fun n => !n.isRead && (n.afterCall c).isRead := by
  cases c with
  | push n => simp [call, Notification.afterCall]
  | markRead ids reader time =>
    refine List.countP_congr fun n _ => ?_
    by_cases h : isMarked ids n = true
    · have hread : n.isRead = false := by simp_all [isMarked]
      simp [Notification.afterCall, h, hread, Notification.markRead]
    · simp [Notification.afterCall, h]

theorem pushes_cons (c : InboxCall) (cs : List InboxCall) :
    pushes (c :: cs) = c.pushed?.toList.map (⟨·, cs⟩) ++ pushes cs := by
  cases c <;> rfl

/-- The calls after the first one find what it leaves, and what it adds. -/
theorem arrivals_afterCall (ns : List Notification) (c : InboxCall) (cs : List InboxCall) :
    arrivals (ns.map (·.afterCall c) ++ c.pushed?.toList) cs =
      ns.map (fun n => ⟨n.afterCall c, cs⟩) ++ pushes (c :: cs) := by
  rw [arrivals, pushes_cons, List.map_append, List.map_map, List.append_assoc]
  rfl

theorem run_notifications (b : Inbox) (cs : List InboxCall) :
    (b.run cs).1.notifications = (arrivals b.notifications cs).map Arrival.final := by
  induction cs generalizing b with
  | nil => simp [run, arrivals, pushes, Arrival.final, Function.comp_def, Notification.afterCalls]
  | cons c cs ih =>
    rw [run_cons, ih, call_notifications, arrivals_afterCall, arrivals, List.map_append,
      List.map_append, List.map_map, List.map_map]
    rfl

/-- The first call of several turns a notification from unread to read, or those after it do, but
never both. -/
theorem becomesRead_cons (n : Notification) (c : InboxCall) (cs : List InboxCall) :
    (if Arrival.becomesRead ⟨n, c :: cs⟩ then 1 else 0) =
      (if !n.isRead && (n.afterCall c).isRead then 1 else 0) +
        if Arrival.becomesRead ⟨n.afterCall c, cs⟩ then 1 else 0 := by
  unfold Arrival.becomesRead Arrival.final
  simp only [Notification.afterCalls_cons]
  by_cases hn : n.isRead = true
  · simp [Notification.afterCall_of_isRead hn, hn]
  by_cases hc : (n.afterCall c).isRead = true
  · simp [Notification.afterCalls_of_isRead hc, hn, hc]
  · simp [hn, hc]

theorem countP_becomesRead_cons (ns : List Notification) (c : InboxCall) (cs : List InboxCall) :
    ns.countP (fun n => Arrival.becomesRead ⟨n, c :: cs⟩) =
      ns.countP (fun n => !n.isRead && (n.afterCall c).isRead) +
        ns.countP (fun n => Arrival.becomesRead ⟨n.afterCall c, cs⟩) := by
  induction ns with
  | nil => rfl
  | cons n ns ih =>
    have hn := becomesRead_cons n c cs
    simp only [List.countP_cons, ih, hn]
    omega

theorem run_count (b : Inbox) (cs : List InboxCall) :
    (b.run cs).2 = (arrivals b.notifications cs).countP Arrival.becomesRead := by
  induction cs generalizing b with
  | nil =>
    simp [run, arrivals, pushes, Arrival.becomesRead, Arrival.final, Notification.afterCalls,
      List.countP_map, Function.comp_def]
  | cons c cs ih =>
    have hturned := countP_becomesRead_cons b.notifications c cs
    rw [run_cons, ih, call_count, call_notifications, arrivals_afterCall, arrivals,
      List.countP_append, List.countP_append, List.countP_map, List.countP_map]
    simp only [Function.comp_def]
    omega

/-- After any calls, an inbox has the notifications that it had and those that were added, as they
came. What becomes of each is told by `Notification.Fate`, and the calls together count those that
turned from unread to read. -/
theorem run_fate (b : Inbox) (cs : List InboxCall) :
    (arrivals b.notifications cs).map Arrival.notification =
        b.notifications ++ cs.filterMap InboxCall.pushed? ∧
      List.Forall₂ (fun a m => a.notification.Fate a.later m) (arrivals b.notifications cs)
        (b.run cs).1.notifications ∧
      (b.run cs).2 = ((arrivals b.notifications cs).zip (b.run cs).1.notifications).countP
        fun (a, m) => !a.notification.isRead && m.isRead := by
  refine ⟨arrivals_notification _ _, ?_, ?_⟩
  · rw [run_notifications, List.forall₂_map_right_iff, List.forall₂_same]
    exact fun a _ => a.notification.afterCalls_fate a.later
  · rw [run_notifications, run_count, ← List.map_prod_left_eq_zip, List.countP_map]
    rfl

end Inbox

end RecordQuery
