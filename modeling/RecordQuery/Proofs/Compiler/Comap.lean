import RecordQuery.Proofs.Compiler.Success
import RecordQuery.Proofs.Filter.Nodes
import RecordQuery.Proofs.Sort.Rules

/-!
# Records that are looked up

A compiler for records is one for anything by which records are looked up: each accessor reads the
record that is found.

* `Accessor.comap`, `FieldMap.comap` and `Compiler.comap`, which look records up;
* `Compiler.ReadsThrough`, which says that the accessors of some fields read what is looked up, and
  `readsThrough_of_agree`, which shows it of records that agree on these fields;
* `ReadsThrough.compileFilter`, by induction on the tree, and `ReadsThrough.compileSort`, which show
  that what is compiled reads only through the accessors of the fields that are named.
-/

namespace RecordQuery

open Outcome

variable {R S : Type}

namespace Accessor

/-- The accessor that reads the record that is looked up. -/
def comap (a : Accessor R) (f : S → R) : Accessor S :=
  match a with
  | .text get => .text fun s => get (f s)
  | .integer get => .integer fun s => get (f s)
  | .float get => .float fun s => get (f s)
  | .bool get => .bool fun s => get (f s)
  | .timestamp get => .timestamp fun s => get (f s)
  | .uuid get => .uuid fun s => get (f s)

@[simp] theorem type_comap (a : Accessor R) (f : S → R) : (a.comap f).type = a.type := by
  cases a <;> rfl

@[simp] theorem value_comap (a : Accessor R) (f : S → R) (s : S) :
    (a.comap f).value s = a.value (f s) := by
  cases a <;> rfl

theorem ofValue_value (a : Accessor R) : ofValue a.type a.value = a := by
  cases a with
  | _ get =>
    simp only [type, ofValue]
    congr 1
    funext r
    cases h : get r <;> simp [value, h]

/-- Accessors of one type that read the same values are the same. -/
theorem eq_of_value_eq {a b : Accessor R} (htype : a.type = b.type)
    (hvalue : ∀ r, a.value r = b.value r) : a = b := by
  rw [← ofValue_value a, ← ofValue_value b, htype, funext hvalue]

end Accessor

/-- The dictionary with every value mapped. -/
def Dictionary.map {α β : Type} (d : Dictionary α) (g : α → β) : Dictionary β where
  entries := d.entries.map fun e => (e.1, g e.2)
  sorted := by
    unfold SortedEntries
    rw [List.pairwise_map]
    exact d.sorted

theorem Dictionary.find?_map {α β : Type} (d : Dictionary α) (g : α → β) (key : String) :
    (d.map g).find? key = (d.find? key).map g := by
  simp only [find?, map, List.find?_map, Option.map_map]
  rfl

/-- The fields of the record that is looked up. -/
def FieldMap.comap (m : FieldMap R) (f : S → R) : FieldMap S :=
  ⟨m.accessors.map (·.comap f)⟩

theorem FieldMap.find?_comap (m : FieldMap R) (f : S → R) (field : String) :
    (m.comap f).find? field = (m.find? field).map (·.comap f) :=
  m.accessors.find?_map _ field

/-- The test of the record that is looked up. -/
def Predicate.comap (p : Predicate R) (f : S → R) : Predicate S :=
  ⟨fun s => p.holds (f s)⟩

/-- The key of the record that is looked up. -/
def SortKey.comap (k : SortKey R) (f : S → R) : SortKey S :=
  { k with accessor := k.accessor.comap f }

/-- The order of the records that are looked up. -/
def SortOrder.comap (o : SortOrder R) (f : S → R) : SortOrder S :=
  ⟨o.keys.map (·.comap f)⟩

/-- The compiler for what records are looked up by. -/
def Compiler.comap (c : Compiler R) (f : S → R) : Compiler S :=
  ⟨c.fields.comap f, c.limits⟩

/-! ### What reads one accessor -/

section Comap

variable (f : S → R)

theorem Predicate.negateIf_comap (p : Predicate R) (negated : Bool) :
    (p.comap f).negateIf negated = (p.negateIf negated).comap f := by
  cases negated <;> rfl

theorem valueTest_comap (a : Accessor R) (op : Operator) (v : Value) :
    valueTest (a.comap f) op v = (valueTest a op v).comap f := by
  unfold valueTest
  simp only [Accessor.value_comap]
  split
  · rfl
  · split
    · exact Predicate.negateIf_comap f ⟨fun r => containsText (a.value r) v⟩ _
    · exact Predicate.negateIf_comap f ⟨fun r => (a.value r).equal v⟩ _

theorem membershipTest_comap (a : Accessor R) (op : Operator) (vs : ValueSet) :
    membershipTest (a.comap f) op vs = (membershipTest a op vs).comap f := by
  unfold membershipTest
  simp only [Accessor.value_comap]
  exact Predicate.negateIf_comap f ⟨fun r => vs.contains (a.value r)⟩ _

theorem valuePredicate_comap (field : String) (a : Accessor R) (op : Operator) (v : Value) :
    valuePredicate field (a.comap f) op v = (valuePredicate field a op v).map (·.comap f) := by
  unfold valuePredicate
  rw [Accessor.type_comap, valueTest_comap, map_bind_eq]
  rfl

theorem membershipPredicate_comap (field : String) (a : Accessor R) (op : Operator)
    (vs : ValueSet) :
    membershipPredicate field (a.comap f) op vs =
      (membershipPredicate field a op vs).map (·.comap f) := by
  unfold membershipPredicate
  rw [Accessor.type_comap, membershipTest_comap, map_bind_eq]
  rfl

theorem Compiler.join_comap (op : Operator) (ps : List (Predicate R)) :
    join op (ps.map (·.comap f)) = (join op ps).map (·.comap f) := by
  unfold join
  cases op <;>
    simp only [Predicate.all, Predicate.any, List.length_map, List.all_map, List.any_map,
      map_bind_eq] <;>
    rfl

theorem SortKey.compare_comap (k : SortKey R) (s t : S) :
    (k.comap f).compare s t = k.compare (f s) (f t) := by
  simp only [compare, comap, Accessor.value_comap]

theorem SortOrder.compare_comap (o : SortOrder R) (s t : S) :
    (o.comap f).compare s t = o.compare (f s) (f t) := by
  simp only [compare, comap, List.foldr_map, SortKey.compare_comap]

end Comap

/-! ### What reads the fields that it names -/

/-- Two compilers have the same limits, and the accessors of the fields in the one read what the
accessors in the other read of the record that is looked up. -/
structure Compiler.ReadsThrough (c' : Compiler S) (c : Compiler R) (f : S → R)
    (fields : List String) : Prop where
  limits : c'.limits = c.limits
  find? : ∀ field ∈ fields, c'.fields.find? field = (c.fields.find? field).map (·.comap f)

namespace Compiler

theorem readsThrough_comap (c : Compiler R) (f : S → R) (fields : List String) :
    (c.comap f).ReadsThrough c f fields where
  limits := rfl
  find? := fun field _ => c.fields.find?_comap f field

/-- Records that agree on some fields may be looked up in one another's place. -/
theorem readsThrough_of_agree {T : Type} {c : Compiler R} {f : S → R} {g : T → R} {h : S → T}
    {fields : List String}
    (hagree : ∀ s, ∀ field ∈ fields, c.fields.read field (f s) = c.fields.read field (g (h s))) :
    (c.comap f).ReadsThrough (c.comap g) h fields where
  limits := rfl
  find? := by
    intro field hfield
    show (c.fields.comap f).find? field = ((c.fields.comap g).find? field).map _
    rw [FieldMap.find?_comap, FieldMap.find?_comap]
    cases ha : c.fields.find? field with
    | none => rfl
    | some a =>
      have hvalue : ∀ s, a.value (f s) = a.value (g (h s)) := by
        intro s
        have hs := hagree s field hfield
        rwa [FieldMap.read, FieldMap.read, ha] at hs
      exact congrArg some (Accessor.eq_of_value_eq (by simp) fun s => by simp [hvalue s])

namespace ReadsThrough

variable {c' : Compiler S} {c : Compiler R} {f : S → R} {fields fields' : List String}

theorem mono (h : c'.ReadsThrough c f fields) (hsub : fields' ⊆ fields) :
    c'.ReadsThrough c f fields' where
  limits := h.limits
  find? := fun field hfield => h.find? field (hsub hfield)

theorem lookup (h : c'.ReadsThrough c f fields) {field : String} (hfield : field ∈ fields) :
    c'.fields.lookup field = (c.fields.lookup field).map (·.comap f) := by
  unfold FieldMap.lookup
  rw [h.find? field hfield]
  cases c.fields.find? field <;> rfl

theorem compileValue {field : String} (h : c'.ReadsThrough c f [field]) (op : Operator)
    (operand : Operand) :
    c'.compileValue field op operand = (c.compileValue field op operand).map (·.comap f) := by
  unfold Compiler.compileValue
  simp only [h.lookup List.mem_cons_self, map_bind_eq, bind_map_eq, Accessor.type_comap,
    valuePredicate_comap]

theorem compileMembership {field : String} (h : c'.ReadsThrough c f [field]) (op : Operator)
    (operands : List Operand) :
    c'.compileMembership field op operands =
      (c.compileMembership field op operands).map (·.comap f) := by
  unfold Compiler.compileMembership
  simp only [h.lookup List.mem_cons_self, h.limits, map_bind_eq, bind_map_eq, Accessor.type_comap,
    membershipPredicate_comap]

theorem checkLogical (h : c'.ReadsThrough c f fields) (depth : Nat) (op : Operator)
    (children : Nat) : c'.checkLogical depth op children = c.checkLogical depth op children := by
  unfold Compiler.checkLogical
  rw [h.limits]

theorem compileAt {F : Filter} (h : c'.ReadsThrough c f F.fields) (depth : Nat) :
    c'.compileAt depth F = (c.compileAt depth F).map (·.comap f) := by
  -- The depth is counted for the limit alone, so the induction is about all depths at once.
  induction F generalizing depth with
  | value field op operand => exact h.compileValue op operand
  | membership field op operands => exact h.compileMembership op operands
  | logical op children ih =>
    have hchildren : children.mapM (c'.compileAt (depth + 1)) =
        (children.mapM (c.compileAt (depth + 1))).map (List.map (·.comap f)) :=
      mapM_eq_map_mapM fun F hF => ih F hF (h.mono (Filter.fields_subset_logical hF)) _
    simp only [Compiler.compileAt, h.checkLogical, compileListAt_eq_mapM, hchildren, map_bind_eq,
      bind_map_eq, join_comap]

/-- The predicate of a filter reads a record only through the accessors of the fields of the
filter. -/
theorem compileFilter {F : Filter} (h : c'.ReadsThrough c f F.fields) :
    c'.compileFilter F = (c.compileFilter F).map (·.comap f) :=
  h.compileAt 0

theorem compileRule {rule : SortRule} (h : c'.ReadsThrough c f [rule.field]) :
    c'.compileRule rule = (c.compileRule rule).map (·.comap f) := by
  unfold Compiler.compileRule
  simp only [h.lookup List.mem_cons_self, map_bind_eq, bind_map_eq]
  rfl

/-- The order of sort rules reads a record only through the accessors of the fields of the rules. -/
theorem compileSort {rules : List SortRule}
    (h : c'.ReadsThrough c f (rules.map SortRule.field)) :
    c'.compileSort rules = (c.compileSort rules).map (·.comap f) := by
  have hrules : rules.mapM c'.compileRule =
      (rules.mapM c.compileRule).map (List.map (·.comap f)) := by
    refine mapM_eq_map_mapM fun rule hrule => (h.mono ?_).compileRule
    exact List.cons_subset.2 ⟨List.mem_map_of_mem hrule, List.nil_subset _⟩
  unfold Compiler.compileSort
  split
  · rfl
  · simp only [hrules, map_bind_eq, bind_map_eq]
    rfl

end ReadsThrough

end Compiler

end RecordQuery
