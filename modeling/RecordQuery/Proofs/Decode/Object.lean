import Mathlib.Data.List.Nodup
import RecordQuery.Proofs.Decode.Record
import RecordQuery.Proofs.Decode.Room

/-!
# What is read of an object

The members of an object are read one after the other, with the room that is left inside the object.

* `Reader.nullable_eq_ok_iff`, `Reader.list_eq_ok_iff` and others, from what the common readers take
  their values;
* `RecordShape.readMembers_cons_eq_ok_iff`, which reads one member;
* `exists_readMembers_iff`, which shows by induction on the members which objects are read;
* `Fills.filled`, which shows by the same induction that a part of the record is what is read of one
  key, wherever that stands.
-/

namespace RecordQuery

open Outcome

namespace Reader

variable {α : Type} {r : Reader α} {room : Nat} {v : Json}

theorem nullable_eq_ok_iff {x : Option α} :
    nullable r room (.ofJson v) = .ok x ↔
      v = .null ∧ x = none ∨ v ≠ .null ∧ ∃ a, r room (.ofJson v) = .ok a ∧ x = some a := by
  unfold nullable
  cases v with
  | null => simp [Tree.ofJson, @eq_comm _ none]
  | _ => simp [Tree.ofJson, map_eq_ok_iff, @eq_comm _ x]

theorem nullable_eq_some_iff (hnull : ∀ a, r room (.ofJson .null) ≠ .ok a) {a : α} :
    nullable r room (.ofJson v) = .ok (some a) ↔ r room (.ofJson v) = .ok a := by
  rw [nullable_eq_ok_iff]
  constructor
  · rintro (⟨-, ⟨⟩⟩ | ⟨-, _, h, ⟨⟩⟩)
    exact h
  · intro h
    refine .inr ⟨?_, a, h, rfl⟩
    rintro rfl
    exact hnull a h

theorem exists_nullable_iff :
    (∃ x, nullable r room (.ofJson v) = .ok x) ↔ v = .null ∨ ∃ a, r room (.ofJson v) = .ok a := by
  by_cases hv : v = .null <;> simp [nullable_eq_ok_iff, hv]

theorem text_eq_ok_iff {s : String} : text room (.ofJson v) = .ok s ↔ v = .string s := by
  cases v <;> simp [text, Tree.ofJson]

theorem free_eq_ok_iff (hv : v.Readable) (hroom : v.depth ≤ room) {l : Literal} :
    free room (.ofJson v) = .ok l ↔ l.json = v.normal := by
  rw [← Tree.literal?_ofJson_eq_some_iff hv hroom]
  unfold free
  cases (Tree.ofJson v).literal? room <;> simp

section List

variable (hv : v.Readable) (hroom : v.depth ≤ room) {p : Json → α → Prop}
  (hr : ∀ w : Json, w.Readable → w.depth < room → ∀ a, r (room - 1) (.ofJson w) = .ok a ↔ p w a)
include hv hroom hr

/-- A list is read from an array, item by item. -/
theorem list_eq_ok_iff {as : List α} :
    list r room (.ofJson v) = .ok as ↔ ∃ items, v = .array items ∧ List.Forall₂ p items as := by
  cases v with
  | array items =>
    obtain ⟨room, rfl, hitems⟩ := exists_room_of_succ_le hroom
    have hlist : list r (room + 1) (.ofJson (.array items)) =
        (items.map Tree.ofJson).mapM (r room) := by
      show ((Tree.ofItems items).mapM (r room) >>= fun values => _) = _
      rw [ofItems_eq_map]
      exact bind_pure _
    have hitem : ∀ w ∈ items, ∀ a, r room (.ofJson w) = .ok a ↔ p w a := fun w hw =>
      hr w (Json.itemsReadable_iff.1 hv w hw)
        (Nat.lt_succ_of_le (Nat.le_trans (Json.depth_le_itemsDepth hw) hitems))
    rw [hlist, mapM_eq_ok_iff, List.forall₂_map_left_iff, forall₂_congr hitem]
    simp
  | _ => simp [list, Tree.ofJson]

theorem nullable_list_eq_some_iff {as : List α} :
    nullable (list r) room (.ofJson v) = .ok (some as) ↔
      ∃ items, v = .array items ∧ List.Forall₂ p items as := by
  rw [nullable_eq_some_iff (by nofun), list_eq_ok_iff hv hroom hr]

theorem exists_nullable_list_iff :
    (∃ x, nullable (list r) room (.ofJson v) = .ok x) ↔
      v = .null ∨ ∃ items, v = .array items ∧ ∀ w ∈ items, ∃ a, p w a := by
  simp only [exists_nullable_iff, list_eq_ok_iff hv hroom hr, ← exists_forall₂_iff]
  rw [exists_comm]
  simp only [exists_and_left]

end List

end Reader

namespace RecordShape

variable {σ β : Type} {shape : RecordShape σ} {room : Nat} {seen : List String} {s s' : σ}
  {ms : List (String × Json)}

theorem member?_eq_some_iff (hkeys : shape.keys.Nodup) {key : String} {m : Member σ} :
    shape.member? key = some m ↔ m ∈ shape.members ∧ m.key = key := by
  constructor
  · intro h
    exact ⟨List.mem_of_find?_eq_some h, by simpa using List.find?_some h⟩
  · rintro ⟨hm, rfl⟩
    have hsome : (shape.member? m.key).isSome := List.find?_isSome.2 ⟨m, hm, beq_self_eq_true _⟩
    obtain ⟨m', hm'⟩ := Option.isSome_iff_exists.1 hsome
    have hkey : m'.key = m.key := by simpa using List.find?_some hm'
    rw [hm', List.inj_on_of_nodup_map hkeys (List.mem_of_find?_eq_some hm') hm hkey]

/-- One member of an object in which no other keys are allowed. -/
theorem readMembers_cons_eq_ok_iff (hstrict : shape.strict = true) (hkeys : shape.keys.Nodup)
    {key : String} (hseen : key ∉ seen) {close : Close} {t : Tree}
    {rest : List (Option String × Tree)} :
    shape.readMembers room close ((some key, t) :: rest) seen s = .ok s' ↔
      ∃ m ∈ shape.members, m.key = key ∧ ∃ set, m.read room t = .ok set ∧
        shape.readMembers room close rest (key :: seen) (set s) = .ok s' := by
  cases hm : shape.member? key with
  | none =>
    have hnone : ∀ m ∈ shape.members, m.key ≠ key := fun m hmem hkey =>
      absurd ((member?_eq_some_iff hkeys).2 ⟨hmem, hkey⟩) (by rw [hm]; nofun)
    rw [readMembers]
    unfold member? at hm
    rw [hm]
    simp only [hstrict, if_true, reduceCtorEq, false_iff]
    rintro ⟨m, hmem, hkey, -⟩
    exact hnone m hmem hkey
  | some m =>
    rw [readMembers_cons hm hseen, bind_eq_ok_iff]
    constructor
    · rintro ⟨set, hset⟩
      obtain ⟨hmem, hkey⟩ := (member?_eq_some_iff hkeys).1 hm
      exact ⟨m, hmem, hkey, set, hset⟩
    · rintro ⟨m', hmem, hkey, set, hset⟩
      obtain rfl := Option.some.inj (hm.symm.trans ((member?_eq_some_iff hkeys).2 ⟨hmem, hkey⟩))
      exact ⟨set, hset⟩

/-- What is read of the value of a key, or a default where the key is absent. -/
structure Filled (read : Tree → Except Fault β) (key : String) (ms : List (String × Json))
    (default b : β) : Prop where
  given : ∀ v, (key, v) ∈ ms → read (.ofJson v) = .ok b
  absent : key ∉ ms.map Prod.fst → b = default

/-- The member with the key sets a part of the record to what is read, and no other member touches
that part. -/
structure Fills (shape : RecordShape σ) (room : Nat) (key : String) (part : σ → β)
    (read : Tree → Except Fault β) : Prop where
  own : ∀ m ∈ shape.members, m.key = key → ∀ s t set, m.read room t = .ok set →
    read t = .ok (part (set s))
  other : ∀ m ∈ shape.members, m.key ≠ key → ∀ s t set, m.read room t = .ok set →
    part (set s) = part s

section Members

variable (hstrict : shape.strict = true) (hkeys : shape.keys.Nodup)
  (hdistinct : (ms.map Prod.fst ++ seen).Nodup)
include hstrict hkeys hdistinct

/-- Distinct members are read if each of them is read by the member of its key and no required key
is missing. -/
theorem exists_readMembers_iff :
    (∃ s', shape.readMembers room .closed (Tree.ofMembers ms) seen s = .ok s') ↔
      (∀ e ∈ ms, ∃ m ∈ shape.members, m.key = e.1 ∧ ∃ set, m.read room (.ofJson e.2) = .ok set) ∧
      ∀ m ∈ shape.members, m.required = true → m.key ∈ ms.map Prod.fst ++ seen := by
  induction ms generalizing seen s with
  | nil => simp [Tree.ofMembers, readMembers_nil_eq_ok_iff, missing?_eq_none_iff]
  | cons e ms ih =>
    obtain ⟨key, v⟩ := e
    have hmiddle : (ms.map Prod.fst ++ key :: seen).Nodup := List.nodup_middle.2 hdistinct
    obtain ⟨hnotin, -⟩ := List.nodup_cons.1 hdistinct
    have hseen : key ∉ seen := fun h => hnotin (List.mem_append_right _ h)
    have hmem : ∀ k, k ∈ ms.map Prod.fst ++ key :: seen ↔
        k ∈ ((key, v) :: ms).map Prod.fst ++ seen := fun k => List.perm_middle.mem_iff
    simp only [Tree.ofMembers, readMembers_cons_eq_ok_iff hstrict hkeys hseen,
      List.forall_mem_cons, ← hmem]
    constructor
    · rintro ⟨s', m, hm, hkey, set, hset, hrest⟩
      obtain ⟨hall, hrequired⟩ := (ih hmiddle).1 ⟨s', hrest⟩
      exact ⟨⟨⟨m, hm, hkey, set, hset⟩, hall⟩, hrequired⟩
    · rintro ⟨⟨⟨m, hm, hkey, set, hset⟩, hall⟩, hrequired⟩
      obtain ⟨s', hrest⟩ := (ih hmiddle).2 ⟨hall, hrequired⟩
      exact ⟨s', m, hm, hkey, set, hset, hrest⟩

/-- Of distinct members, a part of the record is what is read of the one with its key. -/
theorem Fills.filled {key : String} {part : σ → β} {read : Tree → Except Fault β}
    (h : shape.Fills room key part read)
    (hread : shape.readMembers room .closed (Tree.ofMembers ms) seen s = .ok s') :
    Filled read key ms (part s) (part s') := by
  induction ms generalizing seen s with
  | nil =>
    obtain ⟨-, rfl⟩ := readMembers_nil_eq_ok_iff.1 hread
    exact ⟨by simp, fun _ => rfl⟩
  | cons e ms ih =>
    obtain ⟨k, v⟩ := e
    have hmiddle : (ms.map Prod.fst ++ k :: seen).Nodup := List.nodup_middle.2 hdistinct
    obtain ⟨hnotin, -⟩ := List.nodup_cons.1 hdistinct
    obtain ⟨hnotms, hseen⟩ := not_or.1 (mt List.mem_append.2 hnotin)
    obtain ⟨m, hm, rfl, set, hset, hrest⟩ :=
      (readMembers_cons_eq_ok_iff hstrict hkeys hseen).1 hread
    obtain ⟨hgiven, habsent⟩ := ih hmiddle hrest
    by_cases hkey : m.key = key
    · -- The key is not among the members that follow, so the part stays what it is set to here.
      rw [hkey] at hnotms
      refine ⟨?_, ?_⟩
      · intro w hw
        rcases List.mem_cons.1 hw with hw | hw
        · obtain ⟨-, rfl⟩ := Prod.mk.inj hw
          rw [habsent hnotms]
          exact h.own m hm hkey s _ set hset
        · exact absurd (List.mem_map_of_mem hw) hnotms
      · exact fun hne => absurd (List.mem_map_of_mem List.mem_cons_self) (hkey ▸ hne)
    · refine ⟨?_, ?_⟩
      · intro w hw
        rcases List.mem_cons.1 hw with hw | hw
        · exact absurd (Prod.mk.inj hw).1.symm hkey
        · exact hgiven w hw
      · intro hne
        rw [habsent fun hmem => hne (List.mem_cons_of_mem _ hmem)]
        exact h.other m hm hkey s _ set hset

end Members

/-- A part without a default is there where it is read of the value of its key. -/
theorem Filled.eq_some_iff {read : Tree → Except Fault (Option β)} {key : String} {b : Option β}
    (h : Filled read key ms none b) {x : β} :
    b = some x ↔ ∃ v, (key, v) ∈ ms ∧ read (.ofJson v) = .ok (some x) := by
  constructor
  · rintro rfl
    obtain ⟨⟨_, v⟩, hmem, rfl⟩ := List.mem_map.1 (not_imp_comm.1 h.absent nofun)
    exact ⟨v, hmem, h.given v hmem⟩
  · rintro ⟨v, hmem, hread⟩
    exact Except.ok.inj ((h.given v hmem).symm.trans hread)

end RecordShape

end RecordQuery
