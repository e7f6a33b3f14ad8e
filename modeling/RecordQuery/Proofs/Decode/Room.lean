import RecordQuery.Decode.Record
import RecordQuery.Proofs.Decode.Reader

/-!
# The room for a value

How much room there is, and what is done where there is none, does not matter to a value for which
there is enough.

* `Reader.AgreeBelow`, which says that two readers give the same on the values of less than a
  depth, each with any room that is enough;
* a lemma for each of the readers, by which the parts of a value are one level below it;
* `RecordShape.AgreesBelow` and `AgreesBelow.reader`, the same for records whose members agree one
  by one.
-/

namespace RecordQuery

open Outcome

/-- Where there is room for a value with parts, there is one level less for the parts. -/
theorem exists_room_of_succ_le {depth room : Nat} (h : depth + 1 ≤ room) :
    ∃ room', room = room' + 1 ∧ depth ≤ room' :=
  ⟨room - 1, by omega, by omega⟩

/-- A readable value with fewer than `n` arrays and objects inside each other. -/
structure Json.ReadableBelow (n : Nat) (v : Json) : Prop where
  readable : v.Readable
  depth_lt : v.depth < n

namespace Json.ReadableBelow

variable {n : Nat} {v : Json}

theorem item {items : List Json} (h : (array items).ReadableBelow n) (hv : v ∈ items) :
    v.ReadableBelow (n - 1) := by
  refine ⟨itemsReadable_iff.1 h.readable v hv, ?_⟩
  have hdepth : itemsDepth items + 1 < n := h.depth_lt
  have := depth_le_itemsDepth hv
  omega

theorem member {members : List (String × Json)} (h : (object members).ReadableBelow n)
    {m : String × Json} (hm : m ∈ members) : m.2.ReadableBelow (n - 1) := by
  refine ⟨membersReadable_iff.1 h.readable m hm, ?_⟩
  have hdepth : membersDepth members + 1 < n := h.depth_lt
  have := depth_le_membersDepth hm
  omega

end Json.ReadableBelow

namespace Reader

variable {α β : Type} {r r' : Reader α} {n : Nat}

/-- The readers give the same on readable values of less than a depth, where both have enough
room. -/
def AgreeBelow (n : Nat) (r r' : Reader α) : Prop :=
  ∀ v : Json, v.ReadableBelow n → ∀ room room', v.depth ≤ room → v.depth ≤ room' →
    r room (.ofJson v) = r' room' (.ofJson v)

theorem text_agreeBelow : AgreeBelow n text text := fun _ _ _ _ _ _ => rfl

theorem parsed_agreeBelow (expected : String) (read : String → Except Fault α) :
    AgreeBelow n (parsed expected read) (parsed expected read) := fun _ _ _ _ _ _ => rfl

theorem free_agreeBelow : AgreeBelow n free free := by
  intro v hv room room' hroom hroom'
  obtain ⟨l, hl⟩ := hv.readable.exists_literal
  unfold free
  rw [(Tree.literal?_ofJson_eq_some_iff hv.readable hroom).2 hl,
    (Tree.literal?_ofJson_eq_some_iff hv.readable hroom').2 hl]

theorem AgreeBelow.map (h : AgreeBelow n r r') (f : α → β) :
    AgreeBelow n (fun room t => (r room t).map f) fun room t => (r' room t).map f := by
  intro v hv room room' hroom hroom'
  show (r room _).map f = (r' room' _).map f
  rw [h v hv room room' hroom hroom']

theorem AgreeBelow.nullable (h : AgreeBelow n r r') :
    AgreeBelow n (Reader.nullable r) (Reader.nullable r') := by
  intro v hv room room' hroom hroom'
  have hread := h v hv room room' hroom hroom'
  unfold Reader.nullable
  cases v with
  | null => rfl
  | _ =>
    rw [Tree.ofJson] at hread ⊢
    show (r room _).map some = (r' room' _).map some
    rw [hread]

/-- What is read from one item after the other. -/
theorem AgreeBelow.mapM (h : AgreeBelow n r r') {items : List Json}
    (hitems : ∀ v ∈ items, v.ReadableBelow n) {room room' : Nat}
    (hroom : Json.itemsDepth items ≤ room) (hroom' : Json.itemsDepth items ≤ room') :
    (Tree.ofItems items).mapM (r room) = (Tree.ofItems items).mapM (r' room') := by
  induction items with
  | nil => rfl
  | cons v vs ih =>
    obtain ⟨hv, hvs⟩ := List.forall_mem_cons.1 hitems
    obtain ⟨hhead, htail⟩ := Nat.max_le.1 hroom
    obtain ⟨hhead', htail'⟩ := Nat.max_le.1 hroom'
    simp only [Tree.ofItems, List.mapM_cons]
    rw [h v hv room room' hhead hhead', ih hvs htail htail']

/-- The items are one level below the array. -/
theorem AgreeBelow.list (h : AgreeBelow (n - 1) r r') :
    AgreeBelow n (Reader.list r) (Reader.list r') := by
  intro v hv room room' hroom hroom'
  cases v with
  | array items =>
    obtain ⟨room, rfl, hparts⟩ := exists_room_of_succ_le hroom
    obtain ⟨room', rfl, hparts'⟩ := exists_room_of_succ_le hroom'
    show ((Tree.ofItems items).mapM (r room) >>= fun values => _) =
      ((Tree.ofItems items).mapM (r' room') >>= fun values => _)
    rw [h.mapM (fun _ => hv.item) hparts hparts']
  | _ => rfl

end Reader

variable {σ : Type} {n : Nat}

/-- The members have the same key, are required or not alike, and read the same. -/
structure Member.AgreesBelow (n : Nat) (m m' : Member σ) : Prop where
  key : m.key = m'.key
  required : m.required = m'.required
  read : Reader.AgreeBelow n m.read m'.read

/-- The shapes differ in nothing but how their members read, and there they agree. -/
structure RecordShape.AgreesBelow (n : Nat) (shape shape' : RecordShape σ) : Prop where
  name : shape.name = shape'.name
  strict : shape.strict = shape'.strict
  start : shape.start = shape'.start
  members : List.Forall₂ (Member.AgreesBelow n) shape.members shape'.members

section Members

variable {ms ms' : List (Member σ)} (h : List.Forall₂ (Member.AgreesBelow n) ms ms')
include h

theorem map_key_eq_of_agree : ms.map Member.key = ms'.map Member.key := by
  induction h with
  | nil => rfl
  | cons hm _ ih => rw [List.map_cons, List.map_cons, hm.key, ih]

/-- A member that is found by its key and by whether it is required. -/
theorem find?_of_agree (p : String → Bool → Bool) :
    ((ms.find? fun m => p m.key m.required) = none ∧
        (ms'.find? fun m => p m.key m.required) = none) ∨
      ∃ m m', (ms.find? fun m => p m.key m.required) = some m ∧
        (ms'.find? fun m => p m.key m.required) = some m' ∧ m.AgreesBelow n m' := by
  induction h with
  | nil => exact .inl ⟨rfl, rfl⟩
  | @cons m m' _ _ hm _ ih =>
    rw [List.find?_cons, List.find?_cons, hm.key, hm.required]
    cases p m'.key m'.required with
    | true => exact .inr ⟨m, m', rfl, rfl, hm⟩
    | false => exact ih

end Members

namespace RecordShape.AgreesBelow

variable {shape shape' : RecordShape σ} (h : shape.AgreesBelow n shape')
include h

theorem missing?_eq (seen : List String) : shape.missing? seen = shape'.missing? seen := by
  unfold missing?
  rcases find?_of_agree h.members fun key required => required && !seen.contains key with
    ⟨hm, hm'⟩ | ⟨m, m', hm, hm', hagree⟩
  · rw [hm, hm']
  · rw [hm, hm', Option.map_some, Option.map_some, hagree.key]

variable {room room' : Nat}

theorem readMembers_eq {ms : List (String × Json)} (hms : ∀ m ∈ ms, m.2.ReadableBelow n)
    (hroom : Json.membersDepth ms ≤ room) (hroom' : Json.membersDepth ms ≤ room') (close : Close)
    (seen : List String) (s : σ) :
    shape.readMembers room close (Tree.ofMembers ms) seen s =
      shape'.readMembers room' close (Tree.ofMembers ms) seen s := by
  induction ms generalizing seen s with
  | nil => rw [Tree.ofMembers, readMembers, readMembers, h.missing?_eq]
  | cons m ms ih =>
    obtain ⟨key, v⟩ := m
    obtain ⟨hv, hms⟩ := List.forall_mem_cons.1 hms
    obtain ⟨hhead, htail⟩ := Nat.max_le.1 hroom
    obtain ⟨hhead', htail'⟩ := Nat.max_le.1 hroom'
    rw [Tree.ofMembers, readMembers, readMembers]
    rcases find?_of_agree h.members fun k _ => k == key with
      ⟨hm, hm'⟩ | ⟨m, m', hm, hm', hagree⟩
    · have hkeys : shape.keys = shape'.keys := map_key_eq_of_agree h.members
      simp only [hm, hm', h.strict, hkeys, ih hms htail htail']
    · simp only [hm, hm', hagree.read v hv room room' hhead hhead', ih hms htail htail']

theorem readItems_eq {ms ms' : List (Member σ)}
    (hms : List.Forall₂ (Member.AgreesBelow n) ms ms') {items : List Json}
    (hitems : ∀ v ∈ items, v.ReadableBelow n) (hroom : Json.itemsDepth items ≤ room)
    (hroom' : Json.itemsDepth items ≤ room') (close : Close) (s : σ) :
    shape.readItems room close ms (Tree.ofItems items) s =
      shape'.readItems room' close ms' (Tree.ofItems items) s := by
  induction hms generalizing items s with
  | nil => cases items <;> rfl
  | @cons m m' ms ms' hm hms ih =>
    cases items with
    | nil =>
      have hlength : shape.members.length = shape'.members.length := h.members.length_eq
      have hrest := @ih [] (by simp) (Nat.zero_le _) (Nat.zero_le _) s
      simp only [Tree.ofItems] at hrest ⊢
      rw [readItems, readItems, hrest, hm.required, hlength, hms.length_eq, expected, expected,
        h.name]
    | cons v vs =>
      obtain ⟨hv, hvs⟩ := List.forall_mem_cons.1 hitems
      obtain ⟨hhead, htail⟩ := Nat.max_le.1 hroom
      obtain ⟨hhead', htail'⟩ := Nat.max_le.1 hroom'
      rw [Tree.ofItems, readItems, readItems, hm.read v hv room room' hhead hhead']
      simp only [ih hvs htail htail']

end RecordShape.AgreesBelow

/-- The members of a record are one level below it, by their keys or by their positions. -/
theorem RecordShape.AgreesBelow.reader {shape shape' : RecordShape σ}
    (h : shape.AgreesBelow (n - 1) shape') :
    Reader.AgreeBelow n shape.reader shape'.reader := by
  intro v hv room room' hroom hroom'
  unfold RecordShape.reader
  cases v with
  | array items =>
    obtain ⟨room, rfl, hparts⟩ := exists_room_of_succ_le hroom
    obtain ⟨room', rfl, hparts'⟩ := exists_room_of_succ_le hroom'
    simp only [Tree.ofJson, h.start]
    exact h.readItems_eq h.members (fun _ => hv.item) hparts hparts' _ _
  | object members =>
    obtain ⟨room, rfl, hparts⟩ := exists_room_of_succ_le hroom
    obtain ⟨room', rfl, hparts'⟩ := exists_room_of_succ_le hroom'
    simp only [Tree.ofJson, h.start]
    exact h.readMembers_eq (fun _ => hv.member) hparts hparts' _ _ _
  | _ => simp only [Tree.ofJson, expected, h.name]

end RecordQuery
