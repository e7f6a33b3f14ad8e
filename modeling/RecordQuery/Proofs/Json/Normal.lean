import RecordQuery.Json.Basic

/-!
# Values without their spelling

* `Json.Readable`, the values each of whose numbers can be read;
* `Json.normal`, the value with the keys of its objects sorted and without repeated keys;
* `Canonical.readable` and `Canonical.normal_eq`, which show that a canonical value is readable and
  that nothing changes in it.
-/

namespace RecordQuery

/-- A key behind all others is put at the end. -/
theorem insertEntry_of_lt {α : Type} {key : String} {value : α} {entries : List (String × α)}
    (h : ∀ e ∈ entries, compare e.1 key = .lt) :
    insertEntry key value entries = entries ++ [(key, value)] := by
  induction entries with
  | nil => rfl
  | cons head rest ih =>
    obtain ⟨hhead, hrest⟩ := List.forall_mem_cons.1 h
    have hgt : compare key head.1 = .gt := Std.OrientedCmp.gt_iff_lt.2 hhead
    simp only [insertEntry, hgt, ih hrest, List.cons_append]

namespace Json

mutual

/-- Every number can be read. -/
def Readable : Json → Prop
  | .number n => n.isCanonical = true
  | .array items => ItemsReadable items
  | .object members => MembersReadable members
  | _ => True

/-- Every item is readable. -/
def ItemsReadable : List Json → Prop
  | [] => True
  | v :: vs => v.Readable ∧ ItemsReadable vs

/-- Every member is readable. -/
def MembersReadable : List (String × Json) → Prop
  | [] => True
  | (_, v) :: ms => v.Readable ∧ MembersReadable ms

end

mutual

/-- The value with the keys of each object sorted; of repeated keys the last counts. -/
def normal : Json → Json
  | .array items => .array (itemsNormal items)
  | .object members => .object (membersNormal members [])
  | v => v

/-- The items, each with its keys sorted. -/
def itemsNormal : List Json → List Json
  | [] => []
  | v :: vs => v.normal :: itemsNormal vs

/-- The members, each with its keys sorted, put in after those before them. -/
def membersNormal : List (String × Json) → List (String × Json) → List (String × Json)
  | [], entries => entries
  | (k, v) :: ms, entries => membersNormal ms (insertEntry k v.normal entries)

end

theorem itemsReadable_iff {items : List Json} :
    ItemsReadable items ↔ ∀ v ∈ items, v.Readable := by
  induction items with
  | nil => simp [ItemsReadable]
  | cons v vs ih => simp [ItemsReadable, ih]

theorem membersReadable_iff {members : List (String × Json)} :
    MembersReadable members ↔ ∀ m ∈ members, m.2.Readable := by
  induction members with
  | nil => simp [MembersReadable]
  | cons m ms ih => simp [MembersReadable, ih]

mutual

theorem Canonical.readable {v : Json} (h : v.Canonical) : v.Readable := by
  match v with
  | .null => trivial
  | .bool _ => trivial
  | .string _ => trivial
  | .number _ => exact h
  | .array _ => exact ItemsCanonical.readable h
  | .object _ => exact MembersCanonical.readable h.2

theorem ItemsCanonical.readable {items : List Json} (h : ItemsCanonical items) :
    ItemsReadable items := by
  match items with
  | [] => trivial
  | _ :: _ => exact ⟨h.1.readable, ItemsCanonical.readable h.2⟩

theorem MembersCanonical.readable {members : List (String × Json)} (h : MembersCanonical members) :
    MembersReadable members := by
  match members with
  | [] => trivial
  | (_, _) :: _ => exact ⟨h.1.readable, MembersCanonical.readable h.2⟩

end

mutual

theorem Canonical.normal_eq {v : Json} (h : v.Canonical) : v.normal = v := by
  match v with
  | .null => rfl
  | .bool _ => rfl
  | .string _ => rfl
  | .number _ => rfl
  | .array items => rw [normal, ItemsCanonical.normal_eq h]
  | .object members =>
    have hmembers : membersNormal members [] = [] ++ members :=
      MembersCanonical.normal_eq h.1 h.2
    rw [normal, hmembers, List.nil_append]

theorem ItemsCanonical.normal_eq {items : List Json} (h : ItemsCanonical items) :
    itemsNormal items = items := by
  match items with
  | [] => rfl
  | v :: vs => rw [itemsNormal, h.1.normal_eq, ItemsCanonical.normal_eq h.2]

/-- Members that are sorted are put in one behind the other. -/
theorem MembersCanonical.normal_eq {members entries : List (String × Json)}
    (hsorted : SortedEntries (entries ++ members)) (h : MembersCanonical members) :
    membersNormal members entries = entries ++ members := by
  match members with
  | [] => rw [membersNormal, List.append_nil]
  | (k, v) :: ms =>
    have hlast : ∀ e ∈ entries, compare e.1 k = .lt := fun e he =>
      (List.pairwise_append.1 hsorted).2.2 e he (k, v) List.mem_cons_self
    rw [List.append_cons] at hsorted ⊢
    rw [membersNormal, h.1.normal_eq, insertEntry_of_lt hlast,
      MembersCanonical.normal_eq hsorted h.2]

end

end Json

end RecordQuery
