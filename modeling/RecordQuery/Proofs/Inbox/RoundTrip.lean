import RecordQuery.CommandLine.Run
import RecordQuery.Proofs.Decode.Record
import RecordQuery.Proofs.Json.Text
import RecordQuery.Proofs.Time.Relaxed
import RecordQuery.Proofs.Uuid

/-!
# Notifications are read back

The items of one answer can be the records of another request.

* `Uuid.reader_takes` and `Instant.reader_takes`, for the members with a form of their own;
* `Notification.asWritten`, the notification that is read back, and `asWritten_eq_self_iff`, by which
  it is another one exactly where a leap second does not end a minute;
* `Notification.reader_takes`, which reads a notification member by member;
* `Notification.listToJson_withoutNumbers` and `Notification.depth_listToJson_le`, by which the text
  of a list of notifications is read as its JSON form;
* `CommandLine.runQuery_of_answered_items`, which sums these up for the files of a request, and
  `CommandLine.listOfJson_listToJson_of_leap_within_minute`, a notification that is read back as
  another one.
-/

namespace RecordQuery

theorem Uuid.reader_takes (u : Uuid) : reader.Takes u.toJson u :=
  Reader.parsed_takes (by rw [String.toList_ofList, read_render]; rfl)

theorem Instant.reader_takes (t : Instant) : reader.Takes t.toJson t.asWritten :=
  Reader.parsed_takes (by rw [String.toList_ofList, readRelaxed_render]; rfl)

namespace Notification

/-- Every leap second in which a time of the notification lies ends a minute. -/
def LeapsEndMinutes (n : Notification) : Prop :=
  n.createdAt.LeapEndsMinute ∧ ∀ t ∈ n.readAt, t.LeapEndsMinute

/-- The notification with its times as they are read back. -/
def asWritten (n : Notification) : Notification :=
  { n with createdAt := n.createdAt.asWritten, readAt := n.readAt.map Instant.asWritten }

/-- A notification is read back as it was exactly if every leap second ends a minute. -/
theorem asWritten_eq_self_iff {n : Notification} : n.asWritten = n ↔ n.LeapsEndMinutes := by
  unfold asWritten LeapsEndMinutes
  rw [← Instant.asWritten_eq_self_iff]
  cases n with
  | mk id recipient subject body createdAt isRead readBy readAt =>
    cases readAt <;> simp [Instant.asWritten_eq_self_iff]

/-- The same of a list of notifications. -/
theorem map_asWritten_eq_self_iff {ns : List Notification} :
    ns.map asWritten = ns ↔ ∀ n ∈ ns, n.LeapsEndMinutes := by
  simp only [← asWritten_eq_self_iff]
  rw [← List.map_inj_left, List.map_id']

theorem nodup_keys (n : Notification) :
    (([("id", n.id.toJson), ("recipientId", .string n.recipient),
      ("subject", .string n.subject), ("body", .string n.body), ("isRead", .bool n.isRead),
      ("createdAt", n.createdAt.toJson)] ++
      Json.optional "readById" .string n.readBy ++
      Json.optional "readAt" Instant.toJson n.readAt).map Prod.fst).Nodup := by
  unfold Json.optional
  cases n.readBy <;> cases n.readAt <;> simp

/-- A notification is read member by member. A member that is left out keeps its default, which is
what it is left out for. -/
theorem reader_takes (n : Notification) : reader.Takes n.toJson n.asWritten := by
  have hid : ∀ s, shape.Reads s [("id", n.id.toJson)] { s with id := n.id } :=
    fun _ => .member rfl n.id.reader_takes rfl
  have hrecipient : ∀ s, shape.Reads s [("recipientId", .string n.recipient)]
      { s with recipient := n.recipient } :=
    fun _ => .member rfl (Reader.text_takes n.recipient) rfl
  have hsubject : ∀ s, shape.Reads s [("subject", .string n.subject)]
      { s with subject := n.subject } :=
    fun _ => .member rfl (Reader.text_takes n.subject) rfl
  have hbody : ∀ s, shape.Reads s [("body", .string n.body)] { s with body := n.body } :=
    fun _ => .member rfl (Reader.text_takes n.body) rfl
  have hisRead : ∀ s, shape.Reads s [("isRead", .bool n.isRead)] { s with isRead := n.isRead } :=
    fun _ => .member rfl (Reader.flag_takes n.isRead) rfl
  have hcreatedAt : ∀ s, shape.Reads s [("createdAt", n.createdAt.toJson)]
      { s with createdAt := n.createdAt.asWritten } :=
    fun _ => .member rfl n.createdAt.reader_takes rfl
  have hreadBy : ∀ s : Notification, s.readBy = none →
      shape.Reads s (Json.optional "readById" .string n.readBy) { s with readBy := n.readBy } := by
    rintro ⟨⟩ ⟨⟩
    exact .optional_self rfl n.readBy (fun b _ => ⟨Reader.text_takes b, nofun⟩) rfl rfl
  have hreadAt : ∀ s : Notification, s.readAt = none →
      shape.Reads s (Json.optional "readAt" Instant.toJson n.readAt)
        { s with readAt := n.readAt.map Instant.asWritten } := by
    rintro ⟨⟩ ⟨⟩
    exact .optional rfl n.readAt (fun t _ => ⟨t.reader_takes, nofun⟩) rfl rfl
  have hmembers := ((((((hid shape.start).append (hrecipient _)).append (hsubject _)).append
    (hbody _)).append (hisRead _)).append (hcreatedAt _))
  exact ((hmembers.append (hreadBy _ rfl)).append (hreadAt _ rfl)).takes n.nodup_keys rfl

theorem listReader_takes (ns : List Notification) :
    listReader.Takes (listToJson ns) (ns.map asWritten) := by
  refine .list ?_
  rw [List.forall₂_map_left_iff, List.forall₂_map_right_iff, List.forall₂_same]
  exact fun n _ => n.reader_takes

/-! ### Texts of notifications -/

theorem toJson_withoutNumbers (n : Notification) : n.toJson.WithoutNumbers := by
  unfold toJson Json.optional
  cases n.readBy <;> cases n.readAt <;> repeat' constructor

theorem depth_toJson (n : Notification) : n.toJson.depth = 1 := by
  unfold toJson Json.optional
  cases n.readBy <;> cases n.readAt <;> rfl

theorem listToJson_withoutNumbers (ns : List Notification) :
    (listToJson ns).WithoutNumbers := by
  show Json.ItemsWithoutNumbers (ns.map toJson)
  induction ns with
  | nil => trivial
  | cons n ns ih => exact ⟨n.toJson_withoutNumbers, ih⟩

theorem depth_listToJson_le (ns : List Notification) : (listToJson ns).depth ≤ 2 := by
  refine Nat.succ_le_succ ?_
  induction ns with
  | nil => exact Nat.zero_le 1
  | cons n ns ih => exact Nat.max_le.2 ⟨Nat.le_of_eq n.depth_toJson, ih⟩

end Notification

/-! ### Answers as records -/

/-- The items of an answer are a member of its JSON form. -/
theorem InboxResult.exists_items_of_mem {result : InboxResult} {members : List (String × Json)}
    (hresult : result.toJson = .object members) {v : Json} (hv : ("items", v) ∈ members) :
    ∃ items, result.items = some items ∧ Notification.listToJson items = v := by
  obtain rfl := Json.object.inj hresult
  have hcounts : ∀ (key : String) (n : Option Nat), key ≠ "items" →
      ("items", v) ∉ Json.optional key .nat n := by
    intro key n hkey hmem
    cases n with
    | none => cases hmem
    | some n => exact hkey (congrArg Prod.fst (List.mem_singleton.1 hmem)).symm
  simp only [List.mem_append, hcounts, ne_eq, String.reduceEq, not_false_eq_true, or_false] at hv
  cases hitems : result.items with
  | none =>
    rw [hitems] at hv
    cases hv
  | some items =>
    rw [hitems] at hv
    exact ⟨items, rfl, (congrArg Prod.snd (List.mem_singleton.1 hv)).symm⟩

namespace CommandLine

/-- The limits of a request: those in the file that is named, if one is. -/
def limitsFor (files : Files) : Option String → Except RunError Limits
  | some path => readLimits files path
  | none => .ok {}

/-- The answer to the request in a file, from notifications that are at hand. -/
def answerFrom (ns : List Notification) (files : Files) (request : String)
    (config : Option String) : Except RunError InboxResult := do
  let limits ← limitsFor files config
  let r ← readJson InboxRequest.reader files request
  (Inbox.query ⟨ns, limits⟩ r).mapError (.badRequest request)

theorem readJson_eq {α : Type} {r : Reader α} {v : Json} {a : α} (h : r.Takes v a)
    (hdepth : v.depth ≤ Reader.nestingLimit) {files : Files} {path text : String}
    (hfile : files path = .ok text) (htext : Document.ofText text = .ofJson v) :
    readJson r files path = .ok a := by
  rw [readJson, hfile]
  show (r.decodeText text).mapError _ = _
  rw [h.decodeText_eq htext hdepth]
  rfl

/-- What a file of records holds is all that a request takes from it. -/
theorem runQuery_eq {files : Files} {records : String} {ns : List Notification}
    (hrecords : readJson Notification.listReader files records = .ok ns) (request : String)
    (config : Option String) :
    runQuery files records request config = answerFrom ns files request config := by
  unfold runQuery answerFrom
  rw [hrecords]
  cases config <;> rfl

/-- Notifications are read back from their JSON form and from its text, with the times that are
written for them. They are the same notifications if and only if every leap second ends a minute. So
where the items of an answer are taken from its JSON form as a file of records, every request is
answered from the notifications that these items are, with their times as written. -/
theorem runQuery_of_answered_items (ns : List Notification) (result : InboxResult) :
    ((Notification.listOfJson (Notification.listToJson ns) = .ok ns ↔
        ∀ n ∈ ns, n.LeapsEndMinutes) ∧
      Notification.listOfJson (Notification.listToJson ns) = .ok (ns.map Notification.asWritten) ∧
      Notification.listReader.decodeText (Notification.listToJson ns).toText =
        .ok (ns.map Notification.asWritten)) ∧
    ∀ (members : List (String × Json)) (v : Json),
      result.toJson = .object members → ("items", v) ∈ members →
      Document.ofText v.toText = .ofJson v ∧
      ∃ items, result.items = some items ∧
        Notification.listOfJson v = .ok (items.map Notification.asWritten) ∧
        (items.map Notification.asWritten = items ↔ ∀ n ∈ items, n.LeapsEndMinutes) ∧
        ∀ (files : Files) (records text : String),
          files records = .ok text → Document.ofText text = .ofJson v →
          ∀ (request : String) (config : Option String),
            runQuery files records request config =
              answerFrom (items.map Notification.asWritten) files request config := by
  have htext : ∀ ns : List Notification,
      Document.ofText (Notification.listToJson ns).toText = .ofJson (Notification.listToJson ns) :=
    fun ns => Document.ofText_toText (Notification.listToJson_withoutNumbers ns)
  have hdepth : ∀ ns, (Notification.listToJson ns).depth ≤ Reader.nestingLimit :=
    fun ns => Nat.le_trans (Notification.depth_listToJson_le ns) (by decide)
  constructor
  · have htakes := Notification.listReader_takes ns
    have hdecode : Notification.listOfJson (Notification.listToJson ns) =
        .ok (ns.map Notification.asWritten) := htakes.decodeJson_eq
    refine ⟨?_, hdecode, htakes.decodeText_eq (htext ns) (hdepth ns)⟩
    rw [hdecode, Except.ok.injEq, Notification.map_asWritten_eq_self_iff]
  · intro members v hresult hv
    obtain ⟨items, hitems, rfl⟩ := InboxResult.exists_items_of_mem hresult hv
    have htakes := Notification.listReader_takes items
    refine ⟨htext items, items, hitems, htakes.decodeJson_eq,
      Notification.map_asWritten_eq_self_iff, ?_⟩
    intro files records text hfile hread
    exact runQuery_eq (readJson_eq htakes (hdepth items) hfile hread)

/-- A notification read in a leap second that ends a minute and one that is unread, answered and used
as records. -/
theorem runQuery_of_answered_leap_second :
    let leap : Instant := ⟨1483228799, 1500000000, by decide, by decide⟩
    let read : Notification := {
      id := ⟨1⟩, recipient := "user-1", subject := "a \"b\"", body := "\t\x00", isRead := true
      createdAt := .epoch, readBy := some "caf\u00e9", readAt := some leap }
    let unread : Notification := {
      id := ⟨2⟩, recipient := "user-1", subject := "", body := "", createdAt := leap }
    let b : Inbox := ⟨[read, unread], {}⟩
    let v := Notification.listToJson [read, unread]
    let files : Files := fun path => .ok (if path = "records.json" then v.toText else "{}")
    b.query {} = .ok ⟨some [read, unread], none, none, none⟩ ∧
      Notification.listOfJson v = .ok [read, unread] ∧
      runQuery files "records.json" "request.json" none =
        .ok ⟨some [read, unread], none, none, none⟩ := by
  intro leap read unread b v files
  have hquery : b.query {} = .ok ⟨some [read, unread], none, none, none⟩ := by rfl
  obtain ⟨⟨hlist, -⟩, hitems⟩ :=
    runQuery_of_answered_items [read, unread] ⟨some [read, unread], none, none, none⟩
  obtain ⟨htext, items, h, -, hwritten, hrun⟩ := hitems _ v rfl List.mem_cons_self
  obtain rfl := Option.some.inj h
  have hends : ∀ n ∈ [read, unread], n.LeapsEndMinutes := by
    have hepoch : Instant.epoch.LeapEndsMinute := by decide
    have hleap : leap.LeapEndsMinute := by decide
    simp [Notification.LeapsEndMinutes, read, unread, hepoch, hleap]
  have hsame : [read, unread].map Notification.asWritten = [read, unread] := hwritten.2 hends
  rw [hsame] at hrun
  have hrecords : files "records.json" = .ok v.toText := congrArg Except.ok (if_pos rfl)
  have hempty : Document.ofText "{}" = .ofJson (.object []) := by rfl
  have hrequest : readJson InboxRequest.reader files "request.json" = .ok {} :=
    readJson_eq (RecordShape.Reads.nil.takes List.nodup_nil rfl) (by decide) rfl hempty
  refine ⟨hquery, hlist.2 hends, ?_⟩
  rw [hrun files "records.json" v.toText hrecords htext, answerFrom, hrequest]
  exact congrArg (Except.mapError (.badRequest "request.json")) hquery

/-- A notification of a leap second after second 4 is read back as one of second 5, and a request for
that time then finds it. -/
theorem listOfJson_listToJson_of_leap_within_minute :
    let within : Instant := ⟨1709283604, 1333333333, by decide, by decide⟩
    let next : Instant := ⟨1709283605, 333333333, by decide, by decide⟩
    let sent : Instant → Notification := fun t => {
      id := ⟨1⟩, recipient := "user-1", subject := "", body := "", createdAt := t }
    let r : InboxRequest := {
      filter := some (.value Notification.createdAtField .eq (.typed (.timestamp next))) }
    Notification.listOfJson (Notification.listToJson [sent within]) = .ok [sent next] ∧
      sent next ≠ sent within ∧
      Inbox.query ⟨[sent within], {}⟩ r = .ok ⟨some [], none, none, none⟩ ∧
      Inbox.query ⟨[sent next], {}⟩ r = .ok ⟨some [sent next], none, none, none⟩ := by
  intro within next sent r
  have hdecode := (Notification.listReader_takes [sent within]).decodeJson_eq
  have hwritten : [sent within].map Notification.asWritten = [sent next] := by decide
  rw [hwritten] at hdecode
  exact ⟨hdecode, by decide, by rfl, by rfl⟩

end CommandLine

end RecordQuery
