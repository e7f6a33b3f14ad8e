import Mathlib.Data.List.Basic
import Mathlib.Data.List.Induction
import RecordQuery.Field.Map

/-!
# Registered accessors

A field may be registered any number of times and under several types. What is found is its last
registration, and where no identifier is registered twice, a field map holds exactly what has been
registered.

* `insertEntry_perm`, an entry with a key of its own;
* `Dictionary.find?_eq_some_iff`, which shows that a key has one entry;
* `FieldMap.entries_ofList_perm` and `FieldMap.find?_ofList_eq_some_iff`, the entries of a map whose
  registrations have different identifiers;
* `FieldMap.lastAccessor?`, the accessor of a field told from the registrations, and
  `FieldMap.find?_ofList`, which shows by induction on them that it is the one that is found.
-/

namespace RecordQuery

variable {α : Type}

/-- An entry with a key of its own takes no other entry's place. -/
theorem insertEntry_perm {key : String} (value : α) {entries : List (String × α)}
    (h : key ∉ entries.map Prod.fst) :
    (insertEntry key value entries).Perm ((key, value) :: entries) := by
  induction entries with
  | nil => rfl
  | cons head rest ih =>
    obtain ⟨k, v⟩ := head
    rw [List.map_cons, List.mem_cons, not_or] at h
    obtain ⟨hne, hrest⟩ := h
    rw [insertEntry]
    split
    case h_1 => rfl
    case h_2 heq => exact absurd (Std.LawfulEqCmp.eq_of_compare heq) hne
    case h_3 => exact ((ih hrest).cons (k, v)).trans (.swap _ _ _)

theorem SortedEntries.nodup_keys {entries : List (String × α)} (h : SortedEntries entries) :
    (entries.map Prod.fst).Nodup := by
  refine List.pairwise_map.2 (h.imp fun {a b} hlt heq => ?_)
  have hself : compare a.1 b.1 = .eq := heq ▸ Std.ReflCmp.compare_self
  rw [hself] at hlt
  cases hlt

namespace Dictionary

variable {d : Dictionary α} {key : String} {value : α}

/-- What is found under a key is its entry. -/
theorem find?_eq_some_iff : d.find? key = some value ↔ (key, value) ∈ d.entries := by
  obtain ⟨entries, hsorted⟩ := d
  show (entries.find? fun e => e.1 == key).map (·.2) = some value ↔ (key, value) ∈ entries
  have hnodup := hsorted.nodup_keys
  clear hsorted
  induction entries with
  | nil => simp
  | cons head rest ih =>
    obtain ⟨k, v⟩ := head
    obtain ⟨hk, hrest⟩ := List.nodup_cons.1 hnodup
    rw [List.find?_cons, List.mem_cons]
    by_cases hkey : k = key
    · subst hkey
      -- The entries behind have other keys.
      have hbehind : (k, value) ∉ rest := fun hmem =>
        hk (List.mem_map.2 ⟨_, hmem, rfl⟩)
      simp [hbehind, eq_comm]
    · have hne : (key, value) ≠ (k, v) := fun h => hkey (congrArg Prod.fst h).symm
      simp only [beq_eq_false_iff_ne.2 hkey, ih hrest, hne, false_or]

end Dictionary

namespace FieldMap

variable {R : Type} {registrations : List (String × Accessor R)} {field : String} {a : Accessor R}

theorem ofList_concat (r : String × Accessor R) :
    ofList (registrations ++ [r]) = (ofList registrations).register r.1 r.2 :=
  List.foldl_concat _ _ _ _

/-- Registrations under different identifiers are all kept, and nothing else is there. -/
theorem entries_ofList_perm (h : (registrations.map Prod.fst).Nodup) :
    (ofList registrations).accessors.entries.Perm registrations := by
  induction registrations using List.reverseRecOn with
  | nil => rfl
  | append_singleton registrations r ih =>
    rw [List.map_append, List.nodup_append] at h
    obtain ⟨hbefore, -, hne⟩ := h
    have hperm := ih hbefore
    have hnew : r.1 ∉ (ofList registrations).accessors.entries.map Prod.fst := fun hmem =>
      hne _ ((hperm.map Prod.fst).mem_iff.1 hmem) r.1 List.mem_cons_self rfl
    rw [ofList_concat]
    exact (insertEntry_perm r.2 hnew).trans
      ((hperm.cons r).trans (List.perm_append_singleton r registrations).symm)

theorem find?_ofList_eq_some_iff (h : (registrations.map Prod.fst).Nodup) :
    (ofList registrations).find? field = some a ↔ (field, a) ∈ registrations := by
  rw [find?, Dictionary.find?_eq_some_iff, (entries_ofList_perm h).mem_iff]

/-! ### Repeated registrations -/

/-- The accessor that a field has been registered with last. -/
def lastAccessor? (registrations : List (String × Accessor R)) (field : String) :
    Option (Accessor R) :=
  (registrations.filter fun r => r.1 == field).getLast?.map Prod.snd

theorem lastAccessor?_concat (r : String × Accessor R) :
    lastAccessor? (registrations ++ [r]) field =
      if r.1 == field then some r.2 else lastAccessor? registrations field := by
  unfold lastAccessor?
  rw [List.filter_append, List.filter_singleton]
  cases r.1 == field <;> simp

theorem isSome_lastAccessor?_iff :
    (lastAccessor? registrations field).isSome = true ↔ field ∈ registrations.map Prod.fst := by
  simp [lastAccessor?]

/-- A registration takes the place of those of the same field before it and leaves the others. -/
theorem find?_ofList : (ofList registrations).find? field = lastAccessor? registrations field := by
  induction registrations using List.reverseRecOn with
  | nil => rfl
  | append_singleton registrations r ih =>
    rw [ofList_concat, find?_register, lastAccessor?_concat, ih]

/-- What holds of every accessor that is registered holds of every accessor that is found. -/
theorem of_find?_ofList {P : Accessor R → Prop} (h : ∀ e ∈ registrations, P e.2)
    (ha : (ofList registrations).find? field = some a) : P a := by
  rw [find?_ofList, lastAccessor?, Option.map_eq_some_iff] at ha
  obtain ⟨e, he, rfl⟩ := ha
  exact h e (List.mem_of_mem_filter (List.mem_of_getLast? he))

end FieldMap

end RecordQuery
