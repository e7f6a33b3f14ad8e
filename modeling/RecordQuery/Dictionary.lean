/-!
# Dictionaries

A dictionary keeps one value for each key, in the order of the keys by code points, which is the
order of their bytes.

* `insertEntry`, which puts an entry at its place among sorted entries;
* `Dictionary`, sorted entries, with `insert`, `find?` and `keys`;
* `find?_insert`, what an insertion changes.
-/

namespace RecordQuery

variable {α : Type}

/-- Entries sorted strictly by their keys. -/
def SortedEntries (entries : List (String × α)) : Prop :=
  entries.Pairwise fun a b => compare a.1 b.1 = .lt

/-- Puts an entry at its place; it takes the place of an entry with the same key. -/
def insertEntry (key : String) (value : α) : List (String × α) → List (String × α)
  | [] => [(key, value)]
  | (k, v) :: rest =>
    match compare key k with
    | .lt => (key, value) :: (k, v) :: rest
    | .eq => (key, value) :: rest
    | .gt => (k, v) :: insertEntry key value rest

theorem mem_insertEntry {key : String} {value : α} {e : String × α}
    {entries : List (String × α)} (h : e ∈ insertEntry key value entries) :
    e = (key, value) ∨ e ∈ entries := by
  induction entries with
  | nil => simpa [insertEntry] using h
  | cons head rest ih =>
    obtain ⟨k, v⟩ := head
    simp only [insertEntry] at h
    split at h <;> simp only [List.mem_cons] at h ⊢ <;> grind

theorem SortedEntries.insertEntry {entries : List (String × α)} (h : SortedEntries entries)
    (key : String) (value : α) : SortedEntries (insertEntry key value entries) := by
  induction entries with
  | nil => simp [RecordQuery.insertEntry, SortedEntries]
  | cons head rest ih =>
    obtain ⟨k, v⟩ := head
    have hrest : ∀ e ∈ rest, compare k e.1 = .lt := fun _ he => List.rel_of_pairwise_cons h he
    have htail : SortedEntries rest := List.Pairwise.of_cons h
    simp only [RecordQuery.insertEntry]
    split
    case h_1 hlt =>
      refine List.Pairwise.cons ?_ h
      intro e he
      rcases List.mem_cons.1 he with rfl | he
      · exact hlt
      · exact Std.TransCmp.lt_trans hlt (hrest _ he)
    case h_2 heq =>
      obtain rfl := Std.LawfulEqCmp.eq_of_compare heq
      exact List.Pairwise.cons (hrest) htail
    case h_3 hgt =>
      refine List.Pairwise.cons ?_ (ih htail)
      intro e he
      rcases mem_insertEntry he with rfl | he
      · exact Std.OrientedCmp.gt_iff_lt.1 hgt
      · exact hrest e he

/-- A value for each of finitely many keys. -/
structure Dictionary (α : Type) where
  entries : List (String × α)
  sorted : SortedEntries entries

namespace Dictionary

/-- No entries. -/
def empty : Dictionary α :=
  ⟨[], List.Pairwise.nil⟩

/-- The dictionary in which a key has the given value and every other key what it had. -/
def insert (d : Dictionary α) (key : String) (value : α) : Dictionary α :=
  ⟨insertEntry key value d.entries, d.sorted.insertEntry key value⟩

/-- The dictionary of entries inserted one after the other. -/
def ofList (entries : List (String × α)) : Dictionary α :=
  entries.foldl (fun d e => d.insert e.1 e.2) empty

/-- The value of a key. -/
def find? (d : Dictionary α) (key : String) : Option α :=
  (d.entries.find? fun e => e.1 == key).map (·.2)

/-- The keys in their order. -/
def keys (d : Dictionary α) : List String :=
  d.entries.map (·.1)

/-- The number of keys. -/
def size (d : Dictionary α) : Nat :=
  d.entries.length

@[simp] theorem find?_empty (key : String) : (empty : Dictionary α).find? key = none := rfl

theorem find?_insertEntry (key key' : String) (value : α) {entries : List (String × α)}
    (h : SortedEntries entries) :
    ((insertEntry key value entries).find? fun e => e.1 == key') =
      if key == key' then some (key, value) else entries.find? fun e => e.1 == key' := by
  induction entries with
  | nil => simp only [insertEntry, List.find?_cons, List.find?_nil]; cases key == key' <;> rfl
  | cons head rest ih =>
    obtain ⟨k, v⟩ := head
    have htail : SortedEntries rest := List.Pairwise.of_cons h
    simp only [insertEntry]
    split
    case h_1 => simp only [List.find?_cons]; cases key == key' <;> rfl
    case h_2 heq =>
      obtain rfl := Std.LawfulEqCmp.eq_of_compare heq
      simp only [List.find?_cons]
      cases key == key' <;> rfl
    case h_3 hgt =>
      have hne : key ≠ k := by rintro rfl; simp at hgt
      simp only [List.find?_cons, ih htail]
      cases hk : k == key' <;> cases hkey : key == key' <;> simp_all

theorem find?_insert (d : Dictionary α) (key key' : String) (value : α) :
    (d.insert key value).find? key' = if key == key' then some value else d.find? key' := by
  simp only [find?, insert, find?_insertEntry key key' value d.sorted]
  split <;> rfl

end Dictionary

end RecordQuery
