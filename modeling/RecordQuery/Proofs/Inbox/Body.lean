import RecordQuery.Inbox.Basic
import RecordQuery.Proofs.Field.Map
import RecordQuery.Proofs.Query.Positions

/-!
# Bodies are not looked at

* `Notification.read_body`, which shows that no field reads the body of a notification;
* `InboxRequest.answer`, the answer to a request from records of any kind, and
  `InboxRequest.positions`, the answer by positions;
* `Inbox.query_eq_positions` and `Inbox.positions_of_bodies`, which show that the positions are
  those of the answer to a request and that bodies have no influence on them;
* `Inbox.positions_read_named_fields`, which joins this to what holds of every query.
-/

namespace RecordQuery

open Outcome

variable {R S : Type}

theorem Predicate.count_map (p : Predicate R) (f : S → R) (places : List S) :
    p.count (places.map f) = (p.comap f).count places :=
  List.countP_map

/-- A notification reads the same under every identifier whatever its body is. -/
theorem Notification.read_body (field : String) (n : Notification) (body : String) :
    fields.read field { n with body := body } = fields.read field n := by
  unfold FieldMap.read
  cases ha : fields.find? field with
  | none => rfl
  | some a =>
    refine FieldMap.of_find?_ofList (P := fun a => a.value { n with body := body } = a.value n)
      ?_ ha
    simp only [List.forall_mem_cons]
    exact ⟨rfl, rfl, rfl, rfl, rfl, rfl, rfl, nofun⟩

/-- The answer to a request from records of any kind, and the unread count. -/
def InboxRequest.answer (req : InboxRequest) (c : Compiler R) (records : List R) :
    Except CompileError (QueryResult R × Option Nat) := do
  let recipient ← Query.compiledFilter { filter := req.recipient.map Inbox.toRecipient } c
  let addressed := Query.selected recipient records
  let unread ← Query.compiledFilter { filter := onlyIf req.outputs.totalUnread Inbox.unread } c
  let result ← req.query.execute c addressed
  return (result, unread.map (·.count addressed))

/-- The fields that a request to an inbox makes use of. -/
def InboxRequest.fields (req : InboxRequest) : List String :=
  Notification.recipientField :: Notification.isReadField :: req.query.fields

theorem InboxRequest.recipient_subset_fields (req : InboxRequest) :
    (req.recipient.map Inbox.toRecipient).elim [] Filter.fields ⊆ req.fields := by
  cases req.recipient with
  | none => exact List.nil_subset _
  | some r => exact List.cons_subset.2 ⟨List.mem_cons_self, List.nil_subset _⟩

theorem InboxRequest.unread_subset_fields (req : InboxRequest) :
    (onlyIf req.outputs.totalUnread Inbox.unread).elim [] Filter.fields ⊆ req.fields := by
  cases req.outputs.totalUnread with
  | false => exact List.nil_subset _
  | true =>
    exact List.cons_subset.2 ⟨List.mem_cons_of_mem _ List.mem_cons_self, List.nil_subset _⟩

theorem InboxRequest.answer_map {c' : Compiler S} {c : Compiler R} {f : S → R} {req : InboxRequest}
    (h : c'.ReadsThrough c f req.fields) (places : List S) :
    (req.answer c' places).map (fun a => (a.1.map f, a.2)) = req.answer c (places.map f) := by
  have hrecipient := Query.compiledFilter_readsThrough
    (q := { filter := req.recipient.map Inbox.toRecipient }) (h.mono (recipient_subset_fields req))
  have hunread := Query.compiledFilter_readsThrough
    (q := { filter := onlyIf req.outputs.totalUnread Inbox.unread })
    (h.mono (unread_subset_fields req))
  have hquery : c'.ReadsThrough c f req.query.fields :=
    h.mono fun field hfield => List.mem_cons_of_mem _ (List.mem_cons_of_mem _ hfield)
  unfold answer
  simp only [hrecipient, hunread, map_bind_eq, bind_map_eq, ← Query.map_selected,
    ← Query.execute_map hquery, Predicate.count_map, Option.map_map]
  rfl

/-- The answer to a request by the positions of records. -/
def InboxRequest.positions (req : InboxRequest) (c : Compiler R) (records : List R) :
    Except CompileError (QueryResult (Fin records.length) × Option Nat) :=
  req.answer (c.comap records.get) (List.finRange records.length)

theorem InboxRequest.map_get_positions (req : InboxRequest) (c : Compiler R) (records : List R) :
    (req.positions c records).map (fun a => (a.1.map records.get, a.2)) = req.answer c records := by
  rw [positions, answer_map (c.readsThrough_comap _ _), List.map_get_finRange]

theorem InboxRequest.positions_of_agree (req : InboxRequest) (c : Compiler R) {xs ys : List R}
    (hlength : xs.length = ys.length)
    (hagree : ∀ i, ∀ field ∈ req.fields,
      c.fields.read field (xs.get i) = c.fields.read field (ys.get (i.cast hlength))) :
    (req.positions c xs).map (fun a => (a.1.map (Fin.cast hlength), a.2)) =
      req.positions c ys := by
  rw [positions, answer_map (Compiler.readsThrough_of_agree hagree), map_cast_finRange, positions]

namespace Inbox

/-- An answer to a request with the unread count in it. -/
def result (a : QueryResult Notification × Option Nat) : InboxResult :=
  ⟨a.1.items, a.1.totalCount, a.1.totalMatchCount, a.2⟩

theorem query_eq_answer (b : Inbox) (req : InboxRequest) :
    b.query req = (req.answer b.compiler b.notifications).map result := by
  unfold InboxRequest.answer query scope countUnread Query.compiledFilter
  simp only [map_bind_eq]
  cases req.recipient <;> cases req.outputs.totalUnread <;> rfl

/-- The positions are those of the notifications in the answer. -/
theorem query_eq_positions (b : Inbox) (req : InboxRequest) :
    b.query req = (req.positions b.compiler b.notifications).map fun a =>
      result (a.1.map b.notifications.get, a.2) := by
  rw [query_eq_answer, ← InboxRequest.map_get_positions, map_map_eq]

/-- Notifications that are the same up to their bodies are answered at the same positions. -/
theorem positions_of_bodies (req : InboxRequest) (limits : Limits) {ns ms : List Notification}
    (hlength : ns.length = ms.length)
    (hbodies : ∀ i, { ns.get i with body := (ms.get (i.cast hlength)).body } =
      ms.get (i.cast hlength)) :
    (req.positions ⟨Notification.fields, limits⟩ ns).map
        (fun a => (a.1.map (Fin.cast hlength), a.2)) =
      req.positions ⟨Notification.fields, limits⟩ ms := by
  refine req.positions_of_agree _ hlength fun i field _ => ?_
  rw [← hbodies i]
  exact (Notification.read_body field _ _).symm

/-- The answer to a query has the records at some positions, and records that agree on the fields
that the query names are selected at the same positions, or refused with the same error. So it is
with requests to an inbox, where no field reads the bodies. -/
theorem positions_read_named_fields :
    (∀ {R : Type} (q : Query) (c : Compiler R),
      (∀ records, q.execute c records = (q.positions c records).map (·.map records.get)) ∧
      ∀ xs ys (hlength : xs.length = ys.length),
        (∀ i, ∀ field ∈ q.fields,
          c.fields.read field (xs.get i) = c.fields.read field (ys.get (i.cast hlength))) →
        (q.positions c xs).map (·.map (Fin.cast hlength)) = q.positions c ys) ∧
    (∀ (b : Inbox) req, b.query req =
      (req.positions b.compiler b.notifications).map fun a =>
        ⟨a.1.items.map (·.map b.notifications.get), a.1.totalCount, a.1.totalMatchCount, a.2⟩) ∧
    (Notification.fields.find? "body" = none ∧ ∀ field n body,
      Notification.fields.read field { n with body := body } = Notification.fields.read field n) ∧
    ∀ (req : InboxRequest) limits ns ms (hlength : ns.length = ms.length),
      (∀ i, { ns.get i with body := (ms.get (i.cast hlength)).body } = ms.get (i.cast hlength)) →
      (req.positions ⟨Notification.fields, limits⟩ ns).map
          (fun a => (a.1.map (Fin.cast hlength), a.2)) =
        req.positions ⟨Notification.fields, limits⟩ ms := by
  refine ⟨fun q c => ⟨?_, ?_⟩, query_eq_positions, ⟨rfl, Notification.read_body⟩, ?_⟩
  · intro records
    exact (q.map_get_positions c records).symm
  · intro xs ys hlength
    exact q.positions_of_agree c hlength
  · intro req limits ns ms hlength
    exact positions_of_bodies req limits hlength

/-- Records that tie are told apart by their positions, and neither a column that the query does not
name nor the bodies decide which of them come first. -/
theorem positions_of_ties :
    let c : Compiler (Int64 × String) :=
      ⟨.ofList [("x", .integer fun r => some r.1), ("note", .text fun r => some r.2)], {}⟩
    let q : Query :=
      { filter := some (.logical .or [.value "x" .gt (.typed (.integer 1)),
          .value "x" .eq (.typed (.integer 0))])
        sort := [⟨"x", .desc⟩], page := some ⟨0, some 2⟩, outputs := .all }
    let xs : List (Int64 × String) := [(0, "b"), (2, "b"), (1, "b"), (2, "a")]
    let ys : List (Int64 × String) := [(0, ""), (2, "a"), (1, "b"), (2, "b")]
    let n : Notification :=
      { id := default, recipient := "alice", subject := "", body := "", createdAt := .epoch }
    let req : InboxRequest := { recipient := some "alice", outputs := .all }
    q.positions c xs = .ok ⟨some [1, 3], some 4, some 3⟩ ∧
    q.positions c ys = .ok ⟨some [1, 3], some 4, some 3⟩ ∧
    req.positions ⟨Notification.fields, {}⟩ [n, { n with body := "a" }] =
      .ok (⟨some [0, 1], some 2, some 2⟩, some 2) ∧
    req.positions ⟨Notification.fields, {}⟩ [{ n with body := "b" }, n] =
      .ok (⟨some [0, 1], some 2, some 2⟩, some 2) := by
  intro c q xs ys n req
  obtain ⟨hquery, -, -, hbodies⟩ := positions_read_named_fields
  have htable : q.positions c xs = .ok ⟨some [1, 3], some 4, some 3⟩ := by
    let order : SortOrder (Fin 4) := ⟨[⟨"x", .integer fun i => some (xs.get i).1, .desc⟩]⟩
    have hstable : IsStableSort order.compare [0, 1, 3] [1, 3, 0] :=
      { perm := by decide
        ordered := by unfold Ordered; decide
        stable := by decide }
    have hsort : order.sort [0, 1, 3] = [1, 3, 0] :=
      (isStableSort_mergeSort order.compare _).unique hstable
    have hcompiled : q.positions c xs =
        .ok ⟨some ((order.sort [0, 1, 3]).take 2), some 4, some 3⟩ := by rfl
    rw [hcompiled, hsort]
    rfl
  have hagree := (hquery q c).2 xs ys rfl (by decide)
  have hinbox : req.positions ⟨Notification.fields, {}⟩ [n, { n with body := "a" }] =
      .ok (⟨some [0, 1], some 2, some 2⟩, some 2) := by rfl
  have hsame := hbodies req {} [n, { n with body := "a" }] [{ n with body := "b" }, n] rfl
    (by decide)
  rw [htable] at hagree
  rw [hinbox] at hsame
  exact ⟨htable, hagree.symm, hinbox, hsame.symm⟩

end Inbox

end RecordQuery
