import Mathlib.Data.List.Nodup
import RecordQuery.Proofs.Compiler.Comap
import RecordQuery.Proofs.Field.Map
import RecordQuery.Proofs.Text.Utf8

/-!
# Repeated registrations

A field may be registered any number of times and under several types. What counts is its last
registration.

* `FieldMap.KeepsLast`, what a map of registrations answers and lists, and `FieldMap.keepsLast`;
* `Dictionary.eq_of_find?_eq`, from which the map is the same under the same last accessors;
* `Compiler.ReadsThrough.compileFilter_eq` and `Compiler.ReadsThrough.compileSort_eq`, which show
  that a request is compiled to the same if the fields that it names have the same accessors;
* `FieldMap.ofList_keepsLast`, which joins them.
-/

namespace RecordQuery

open Outcome Text

variable {R : Type}

theorem SortedEntries.nodup {α : Type} {entries : List (String × α)} (h : SortedEntries entries) :
    entries.Nodup :=
  List.Nodup.of_map Prod.fst h.nodup_keys

namespace Dictionary

variable {α : Type} {d d' : Dictionary α}

theorem mem_keys_iff {key : String} : key ∈ d.keys ↔ (d.find? key).isSome = true := by
  simp only [keys, List.mem_map, Prod.exists, exists_and_right, exists_eq_right,
    Option.isSome_iff_exists, find?_eq_some_iff]

/-- The keys stand in the order of their bytes. -/
theorem keys_pairwise (d : Dictionary α) : d.keys.Pairwise fun s t => bytes s < bytes t := by
  refine List.pairwise_map.2 (d.sorted.imp fun {e e'} h => ?_)
  rwa [← compare_eq_lt_iff, compare_bytes]

/-- Dictionaries in which the same is found under every key have the same entries. -/
theorem eq_of_find?_eq (h : ∀ key, d.find? key = d'.find? key) : d = d' := by
  have hmem : ∀ e, e ∈ d.entries ↔ e ∈ d'.entries := by
    rintro ⟨key, value⟩
    rw [← find?_eq_some_iff, ← find?_eq_some_iff, h]
  have hperm : d.entries.Perm d'.entries :=
    (List.perm_ext_iff_of_nodup d.sorted.nodup d'.sorted.nodup).2 hmem
  -- Permuted entries are the same if both stand in the order of their keys.
  have hentries : d.entries = d'.entries := by
    refine hperm.eq_of_pairwise (fun e e' _ _ hlt hgt => ?_) d.sorted d'.sorted
    rw [Std.OrientedCmp.gt_of_lt hlt] at hgt
    cases hgt
  cases d
  cases d'
  cases hentries
  rfl

end Dictionary

namespace FieldMap

variable {registrations registrations' : List (String × Accessor R)} {field : String}

/-- What a map of registrations answers and lists. Every field has the accessor of its last
registration, and each field that has been registered stands once in the lists, which go by the
bytes of the identifiers. -/
structure KeepsLast (m : FieldMap R) (registrations : List (String × Accessor R)) : Prop where
  lookup : ∀ field, m.lookup field =
    (lastAccessor? registrations field).elim (.error (.unknownField field)) .ok
  mem_ids : ∀ field, field ∈ m.ids ↔ field ∈ registrations.map Prod.fst
  ids_nodup : m.ids.Nodup
  ids_pairwise : m.ids.Pairwise fun s t => bytes s < bytes t
  map_fields : m.fields.map Prod.fst = m.ids
  mem_fields : ∀ field type, (field, type) ∈ m.fields ↔ m.type? field = some type
  contains_iff : ∀ field, m.contains field = true ↔ field ∈ m.ids
  type?_eq : ∀ field, m.type? field = (lastAccessor? registrations field).map Accessor.type
  size_eq : m.size = m.ids.length

theorem mem_fields_iff {m : FieldMap R} {type : FieldType} :
    (field, type) ∈ m.fields ↔ m.type? field = some type := by
  simp only [fields, List.mem_map, type?, find?, Option.map_eq_some_iff,
    Dictionary.find?_eq_some_iff]
  constructor
  · rintro ⟨⟨_, a⟩, ha, ⟨⟩⟩
    exact ⟨a, ha, rfl⟩
  · rintro ⟨a, ha, rfl⟩
    exact ⟨(field, a), ha, rfl⟩

theorem keepsLast (registrations : List (String × Accessor R)) :
    (ofList registrations).KeepsLast registrations where
  lookup := by
    intro field
    rw [FieldMap.lookup, find?_ofList]
    cases lastAccessor? registrations field <;> rfl
  mem_ids := fun field => by
    rw [← isSome_lastAccessor?_iff, ← find?_ofList]
    exact Dictionary.mem_keys_iff
  ids_nodup := (ofList registrations).accessors.sorted.nodup_keys
  ids_pairwise := (ofList registrations).accessors.keys_pairwise
  map_fields := List.map_map
  mem_fields := fun _ _ => mem_fields_iff
  contains_iff := fun _ => Dictionary.mem_keys_iff.symm
  type?_eq := fun field => by rw [type?, find?_ofList]
  size_eq := (List.length_map _).symm

/-- Registrations make the same map if and only if the last accessors are the same. -/
theorem ofList_eq_ofList_iff :
    ofList registrations = ofList registrations' ↔
      ∀ field, lastAccessor? registrations field = lastAccessor? registrations' field := by
  simp only [← find?_ofList]
  refine ⟨fun h field => by rw [h], fun h => ?_⟩
  exact congrArg FieldMap.mk (Dictionary.eq_of_find?_eq h)

end FieldMap

/-! ### What a request depends on -/

theorem Accessor.comap_id (a : Accessor R) : a.comap id = a := by
  cases a <;> rfl

theorem SortOrder.comap_id (o : SortOrder R) : o.comap id = o := by
  have hkey : ∀ k : SortKey R, k.comap id = k := fun k => by rw [SortKey.comap, Accessor.comap_id]
  simp only [comap, hkey, List.map_id']

namespace Compiler

variable {c c' : Compiler R}

/-- Where fields have the same accessors in two maps, either may be read for the other. -/
theorem readsThrough_id {m m' : FieldMap R} {fields : List String} (limits : Limits)
    (h : ∀ field ∈ fields, m'.find? field = m.find? field) :
    ReadsThrough ⟨m', limits⟩ ⟨m, limits⟩ id fields where
  limits := rfl
  find? := fun field hfield => by simp only [h field hfield, Accessor.comap_id, Option.map_id']

theorem ReadsThrough.compileFilter_eq {F : Filter} (h : c'.ReadsThrough c id F.fields) :
    c'.compileFilter F = c.compileFilter F := by
  rw [h.compileFilter]
  cases c.compileFilter F <;> rfl

theorem ReadsThrough.compileSort_eq {rules : List SortRule}
    (h : c'.ReadsThrough c id (rules.map SortRule.field)) :
    c'.compileSort rules = c.compileSort rules := by
  rw [h.compileSort]
  cases c.compileSort rules with
  | error e => rfl
  | ok o => exact congrArg Except.ok o.comap_id

end Compiler

namespace FieldMap

/-- A map of registrations keeps the last accessor of every field, whatever was registered before.
It depends on nothing else, and a request that is compiled depends only on the last accessors of the
fields that it names. -/
theorem ofList_keepsLast (registrations : List (String × Accessor R)) :
    (ofList registrations).KeepsLast registrations ∧
    ∀ registrations' : List (String × Accessor R),
      (ofList registrations' = ofList registrations ↔
        ∀ field, lastAccessor? registrations' field = lastAccessor? registrations field) ∧
      ∀ limits : Limits,
        (∀ F : Filter, (∀ field ∈ F.fields,
            lastAccessor? registrations' field = lastAccessor? registrations field) →
          Compiler.compileFilter ⟨ofList registrations', limits⟩ F =
            Compiler.compileFilter ⟨ofList registrations, limits⟩ F) ∧
        ∀ rules : List SortRule, (∀ field ∈ rules.map SortRule.field,
            lastAccessor? registrations' field = lastAccessor? registrations field) →
          Compiler.compileSort ⟨ofList registrations', limits⟩ rules =
            Compiler.compileSort ⟨ofList registrations, limits⟩ rules := by
  refine ⟨keepsLast registrations, fun registrations' => ⟨ofList_eq_ofList_iff, fun limits => ?_⟩⟩
  simp only [← find?_ofList]
  refine ⟨fun F h => ?_, fun rules h => ?_⟩
  · exact (Compiler.readsThrough_id limits h).compileFilter_eq
  · exact (Compiler.readsThrough_id limits h).compileSort_eq

/-- A field that was a text first and is an integer in the end. A filter and a sort rule on it are
compiled as from its last registration alone, although another field makes the maps different. -/
theorem ofList_keepsLast_of_two_types :
    let text : Accessor (Option Int64) := .text fun _ => none
    let number : Accessor (Option Int64) := .integer id
    let registrations := [("n", text), ("é", text), ("n", number), ("z", text)]
    let registrations' := [("é", text), ("n", number)]
    let F : Filter := .value "n" .gt (.typed (.integer 1))
    (ofList registrations).lookup "n" = .ok number ∧
    (ofList registrations).lookup "m" = .error (.unknownField "m") ∧
    (ofList registrations).ids.Nodup ∧ "é" ∈ (ofList registrations).ids ∧
    ofList registrations' ≠ ofList registrations ∧
    Compiler.compileFilter ⟨ofList registrations', {}⟩ F =
      Compiler.compileFilter ⟨ofList registrations, {}⟩ F ∧
    Compiler.compileSort ⟨ofList registrations', {}⟩ [⟨"n", .desc⟩] =
      Compiler.compileSort ⟨ofList registrations, {}⟩ [⟨"n", .desc⟩] := by
  intro text number registrations registrations' F
  obtain ⟨hkeeps, hothers⟩ := ofList_keepsLast registrations
  obtain ⟨hsame, hrequests⟩ := hothers registrations'
  obtain ⟨hfilter, hsort⟩ := hrequests {}
  have hn : ∀ field ∈ ["n"],
      lastAccessor? registrations' field = lastAccessor? registrations field := by
    simp only [List.forall_mem_cons]
    exact ⟨rfl, nofun⟩
  refine ⟨hkeeps.lookup "n", hkeeps.lookup "m", hkeeps.ids_nodup, ?_, ?_, hfilter F hn,
    hsort [⟨"n", .desc⟩] hn⟩
  · exact (hkeeps.mem_ids "é").2 (by decide)
  · intro heq
    have hz : none = some text := hsame.1 heq "z"
    cases hz

end FieldMap

end RecordQuery
