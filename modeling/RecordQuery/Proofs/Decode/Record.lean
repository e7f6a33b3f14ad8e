import RecordQuery.Proofs.Decode.Reader
import RecordQuery.Query.Wire

/-!
# What records are read from

* `RecordShape.readMembers_cons`, by which an object is read member by member;
* `RecordShape.Reads`, the record that members turn another one into, with a lemma for one member and
  for one that may be left out;
* `Reads.takes`, which shows that an object with distinct known keys, none of them missing, is read as
  that record;
* `Invariant.reader_gives`, which shows that what every member keeps holds of what is read.
-/

namespace RecordQuery.RecordShape

variable {σ α β : Type} {shape : RecordShape σ}

/-- The member with the given key. -/
def member? (shape : RecordShape σ) (key : String) : Option (Member σ) :=
  shape.members.find? fun m => m.key == key

theorem readMembers_cons {key : String} {m : Member σ} (hm : shape.member? key = some m)
    {seen : List String} (hseen : key ∉ seen) (room : Nat) (close : Close) (t : Tree)
    (rest : List (Option String × Tree)) (s : σ) :
    shape.readMembers room close ((some key, t) :: rest) seen s =
      m.read room t >>= fun set => shape.readMembers room close rest (key :: seen) (set s) := by
  have hcontains : seen.contains key = false := by simpa using hseen
  rw [readMembers]
  unfold member? at hm
  rw [hm]
  simp only [hcontains, Bool.false_eq_true, if_false]

theorem missing?_eq_none_iff {seen : List String} :
    shape.missing? seen = none ↔ ∀ m ∈ shape.members, m.required = true → m.key ∈ seen := by
  simp [missing?]

theorem readMembers_nil_eq_ok_iff {room : Nat} {seen : List String} {s s' : σ} :
    shape.readMembers room .closed [] seen s = .ok s' ↔ shape.missing? seen = none ∧ s = s' := by
  rw [readMembers]
  cases shape.missing? seen <;> simp [Reader.requireClosed, pure, Except.pure, bind, Except.bind]

/-- Members, read one after the other, turn a record into another one. -/
inductive Reads (shape : RecordShape σ) : σ → List (String × Json) → σ → Prop
  | nil {s : σ} : Reads shape s [] s
  | cons {key : String} {v : Json} {m : Member σ} {set : σ → σ} {s s' : σ}
    {ms : List (String × Json)} (hm : shape.member? key = some m) (hread : m.read.Takes v set)
    (hrest : Reads shape (set s) ms s') : Reads shape s ((key, v) :: ms) s'

namespace Reads

theorem append {s s' s'' : σ} {ms ms' : List (String × Json)} (h : shape.Reads s ms s')
    (h' : shape.Reads s' ms' s'') : shape.Reads s (ms ++ ms') s'' := by
  induction h with
  | nil => exact h'
  | cons hm hread _ ih => exact .cons hm hread (ih h')

/-- One member whose reader takes its value. -/
theorem member {key : String} {required : Bool} {r : Reader α} {set : σ → α → σ}
    (hm : shape.member? key = some ⟨key, required, fun room t => (r room t).map fun a s => set s a⟩)
    {v : Json} {a : α} (h : r.Takes v a) {s s' : σ} (hs : set s a = s') :
    shape.Reads s [(key, v)] s' := by
  subst hs
  have hread : Reader.Takes (fun room t => (r room t).map fun a s => set s a) v (set · a) := by
    intro room hroom
    show (r room (.ofJson v)).map _ = _
    rw [h room hroom]
    rfl
  exact .cons hm hread .nil

/-- A member that may be left out, where it is the default that it is left out for. -/
theorem optional {key : String} {required : Bool} {r : Reader α} {set : σ → Option α → σ}
    (hm : shape.member? key =
      some ⟨key, required, fun room t => ((Reader.nullable r) room t).map fun a s => set s a⟩)
    {toJson : β → Json} {f : β → α} (b : Option β)
    (h : ∀ x ∈ b, r.Takes (toJson x) (f x) ∧ toJson x ≠ .null) {s s' : σ} (hnone : set s none = s)
    (hs : set s (b.map f) = s') : shape.Reads s (Json.optional key toJson b) s' := by
  subst hs
  cases b with
  | none =>
    rw [Option.map_none, hnone]
    exact .nil
  | some x =>
    obtain ⟨htakes, hnull⟩ := h x rfl
    exact member hm (htakes.nullable hnull) rfl

/-- The same for a member that is read as it was written. -/
theorem optional_self {key : String} {required : Bool} {r : Reader α} {set : σ → Option α → σ}
    (hm : shape.member? key =
      some ⟨key, required, fun room t => ((Reader.nullable r) room t).map fun a s => set s a⟩)
    {toJson : α → Json} (a : Option α) (h : ∀ x ∈ a, r.Takes (toJson x) x ∧ toJson x ≠ .null)
    {s s' : σ} (hnone : set s none = s) (hs : set s a = s') :
    shape.Reads s (Json.optional key toJson a) s' :=
  .optional hm a h hnone (by rwa [Option.map_id'])

/-- Distinct members that have not been seen are read, if none is missing then. -/
theorem readMembers_eq {s s' : σ} {ms : List (String × Json)} (h : shape.Reads s ms s')
    {seen : List String} (hdistinct : (ms.map Prod.fst).Nodup)
    (hseen : ∀ key ∈ seen, key ∉ ms.map Prod.fst)
    (hrequired : ∀ m ∈ shape.members, m.required = true → m.key ∈ seen ∨ m.key ∈ ms.map Prod.fst)
    {room : Nat} (hroom : Json.membersDepth ms ≤ room) :
    shape.readMembers room .closed (Tree.ofMembers ms) seen s = .ok s' := by
  induction h generalizing seen with
  | nil =>
    refine readMembers_nil_eq_ok_iff.2 ⟨missing?_eq_none_iff.2 fun m hm hreq => ?_, rfl⟩
    simpa using hrequired m hm hreq
  | @cons key v m set s s' ms hm hread _ ih =>
    obtain ⟨hhead, htail⟩ := Nat.max_le.1 hroom
    obtain ⟨hnotin, hnodup⟩ := List.nodup_cons.1 hdistinct
    have hkey : key ∉ seen := fun hmem => hseen key hmem List.mem_cons_self
    rw [Tree.ofMembers, readMembers_cons hm hkey, hread room hhead]
    -- From here on the key counts as seen; no later member has it, and it is not missing.
    refine ih hnodup ?_ ?_ htail
    · intro k hk
      rcases List.mem_cons.1 hk with rfl | hk
      · exact hnotin
      · exact fun hmem => hseen k hk (List.mem_cons_of_mem _ hmem)
    · intro m' hm' hreq
      rcases hrequired m' hm' hreq with h | h
      · exact .inl (List.mem_cons_of_mem _ h)
      · rw [List.map_cons, List.mem_cons] at h
        rcases h with h | h
        · exact .inl (h ▸ List.mem_cons_self)
        · exact .inr h

theorem takes {s : σ} {ms : List (String × Json)} (h : shape.Reads shape.start ms s)
    (hdistinct : (ms.map Prod.fst).Nodup) (hrequired : shape.missing? (ms.map Prod.fst) = none) :
    shape.reader.Takes (.object ms) s := by
  intro room hroom
  cases room with
  | zero => exact absurd hroom (Nat.not_succ_le_zero _)
  | succ room =>
    have hmembers := missing?_eq_none_iff.1 hrequired
    exact h.readMembers_eq hdistinct (by simp) (fun m hm hreq => .inr (hmembers m hm hreq))
      (Nat.le_of_succ_le_succ hroom)

end Reads

end RecordQuery.RecordShape

/-! ### Invariants -/

namespace RecordQuery

variable {σ α : Type} {inv : σ → Prop} {shape : RecordShape σ}

/-- Whatever the member takes, it keeps the invariant of the record that it is put into. -/
def Member.Keeps (m : Member σ) (inv : σ → Prop) : Prop :=
  m.read.Gives fun set => ∀ s, inv s → inv (set s)

theorem Reader.Gives.keeps {key : String} {required : Bool} {r : Reader α} {set : σ → α → σ}
    {p : α → Prop} (h : r.Gives p) (hset : ∀ s a, p a → inv s → inv (set s a)) :
    Member.Keeps ⟨key, required, fun room t => (r room t).map fun a s => set s a⟩ inv := by
  intro room t f hread s hs
  obtain ⟨a, ha, rfl⟩ := Outcome.map_eq_ok_iff.1 hread
  exact hset s a (h _ _ _ ha) hs

namespace RecordShape

/-- What holds of the defaults and is kept by every member. -/
structure Invariant (shape : RecordShape σ) (inv : σ → Prop) : Prop where
  start : inv shape.start
  step : ∀ m ∈ shape.members, m.Keeps inv

theorem Invariant.readMembers (h : shape.Invariant inv) {room : Nat} {close : Close}
    {ms : List (Option String × Tree)} {seen : List String} {s s' : σ} (hs : inv s)
    (hread : shape.readMembers room close ms seen s = .ok s') : inv s' := by
  induction ms generalizing seen s with
  | nil =>
    rw [RecordShape.readMembers] at hread
    obtain ⟨_, -, hread⟩ := Outcome.bind_eq_ok_iff.1 hread
    split at hread
    · cases hread
    · obtain rfl := Except.ok.inj hread
      exact hs
  | cons head ms ih =>
    obtain ⟨_ | key, t⟩ := head
    · simp [RecordShape.readMembers] at hread
    rw [RecordShape.readMembers] at hread
    split at hread
    case h_1 =>
      split at hread
      · cases hread
      split at hread
      · exact ih hs hread
      · cases hread
    case h_2 m hm =>
      split at hread
      · cases hread
      obtain ⟨set, hset, hread⟩ := Outcome.bind_eq_ok_iff.1 hread
      exact ih (h.step m (List.mem_of_find?_eq_some hm) _ _ _ hset s hs) hread

theorem Invariant.readItems (h : shape.Invariant inv) {room : Nat} {close : Close}
    {members : List (Member σ)} (hmembers : ∀ m ∈ members, m ∈ shape.members) {ts : List Tree}
    {s s' : σ} (hs : inv s) (hread : shape.readItems room close members ts s = .ok s') :
    inv s' := by
  induction members generalizing ts s with
  | nil =>
    cases ts with
    | nil =>
      rw [RecordShape.readItems] at hread
      obtain ⟨_, -, hread⟩ := Outcome.bind_eq_ok_iff.1 hread
      obtain rfl := Except.ok.inj hread
      exact hs
    | cons t ts => simp [RecordShape.readItems] at hread
  | cons m members ih =>
    obtain ⟨hm, hmembers⟩ := List.forall_mem_cons.1 hmembers
    cases ts with
    | nil =>
      rw [RecordShape.readItems] at hread
      obtain ⟨_, -, hread⟩ := Outcome.bind_eq_ok_iff.1 hread
      split at hread
      · obtain ⟨_, hthrow, -⟩ := Outcome.bind_eq_ok_iff.1 hread
        cases hthrow
      · exact ih hmembers hs hread
    | cons t ts =>
      rw [RecordShape.readItems] at hread
      obtain ⟨set, hset, hread⟩ := Outcome.bind_eq_ok_iff.1 hread
      exact ih hmembers (h.step m hm _ _ _ hset s hs) hread

/-- What every member keeps holds of every record that is read. -/
theorem Invariant.reader_gives (h : shape.Invariant inv) : shape.reader.Gives inv := by
  intro room t s hread
  unfold RecordShape.reader at hread
  split at hread
  · exact h.readMembers h.start hread
  · exact h.readItems (fun m hm => hm) h.start hread
  · cases hread
  · cases hread
  · cases hread

end RecordShape

end RecordQuery
