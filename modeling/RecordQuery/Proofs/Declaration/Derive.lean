import RecordQuery.Declaration.Derive
import RecordQuery.Proofs.Declaration.Attribute
import RecordQuery.Proofs.Field.Map
import RecordQuery.Proofs.Predicate.Check

/-!
# The field map of a declaration

* `DeclaredField.exposedType?` and `DeclaredField.identifier`, which tell from the items of the first
  attribute whether a field is exposed, and how;
* `DeclaredField.registration?_eq_ok_iff`, what becomes of one field;
* `Declaration.registerAll_eq_ok_iff`, what becomes of the fields from left to right, by induction
  with the identifiers that have been used;
* `Declaration.derive_eq_ok_iff`, which declarations become a field map and what they become;
* `Declaration.derive_fieldMap`, which tells the field map and the constants from the exposed fields.
-/

namespace RecordQuery

open Outcome

namespace DeclaredField

/-- The items of the first attribute, the only one that counts. -/
def items (f : DeclaredField) : List AttributeItem :=
  f.attributes.headD []

/-- The type with which a field is exposed, if it is: an item gives the type and none leaves the
field out. -/
def exposedType? (f : DeclaredField) : Option FieldType :=
  if f.items.any AttributeItem.isSkip then none
  else (f.items.filterMap AttributeItem.type?).head?

/-- The identifier that an item gives or else the rule makes of the name. -/
def identifier (rule : RenameRule) (f : DeclaredField) : String :=
  (f.items.filterMap AttributeItem.rename?).getLast?.getD
    (String.ofList (rule.apply f.name.toList))

/-- The registration of a field, if it is exposed. -/
def exposed? (rule : RenameRule) (f : DeclaredField) : Option Registration :=
  f.exposedType?.map fun type => ⟨f.identifier rule, type, f.name⟩

theorem exposed?_eq_some {rule : RenameRule} {f : DeclaredField} {type : FieldType}
    (h : f.exposedType? = some type) :
    f.exposed? rule = some ⟨f.identifier rule, type, f.name⟩ := by
  rw [exposed?, h]
  rfl

/-- The attributes of the field can be read. -/
def IsReadable (f : DeclaredField) : Prop :=
  ∃ a, FieldAttribute.ofAttributes f.attributes = .ok a

variable {rule : RenameRule} {f : DeclaredField}

theorem ofAttributes_eq_ofItems (f : DeclaredField) :
    FieldAttribute.ofAttributes f.attributes = FieldAttribute.ofItems f.items := by
  unfold items
  cases f.attributes <;> rfl

/-- A field whose attributes can be read is registered if it is exposed. -/
theorem registration?_eq_ok_iff {r : Option Registration} :
    f.registration? rule = .ok r ↔ f.IsReadable ∧ r = f.exposed? rule := by
  have hresult : ∀ a, FieldAttribute.ofAttributes f.attributes = .ok a →
      f.registration? rule = .ok (f.exposed? rule) := by
    intro a ha
    rw [registration?, ha, ok_bind]
    obtain rfl := FieldAttribute.ofItems_eq_ok (f.ofAttributes_eq_ofItems ▸ ha)
    unfold exposed? exposedType? identifier
    dsimp only
    cases f.items.any AttributeItem.isSkip with
    | true => rfl
    | false => cases (f.items.filterMap AttributeItem.type?).head? <;> rfl
  constructor
  · intro h
    obtain ⟨a, ha, -⟩ := bind_eq_ok_iff.1 h
    exact ⟨⟨a, ha⟩, Except.ok.inj (h.symm.trans (hresult a ha))⟩
  · rintro ⟨⟨a, ha⟩, rfl⟩
    exact hresult a ha

end DeclaredField

namespace Declaration

variable {rule : RenameRule} {f : DeclaredField} {fs : List DeclaredField}
  {rs : List Registration} {used : List String}

/-- A field that is not exposed is passed over. -/
theorem registerAll_cons_of_none (h : f.exposed? rule = none) :
    registerAll rule (f :: fs) used = .ok rs ↔
      f.IsReadable ∧ registerAll rule fs used = .ok rs := by
  simp only [registerAll, bind_eq_ok_iff, DeclaredField.registration?_eq_ok_iff, h]
  constructor
  · rintro ⟨_, ⟨hf, rfl⟩, hrs⟩
    exact ⟨hf, hrs⟩
  · rintro ⟨hf, hrs⟩
    exact ⟨none, ⟨hf, rfl⟩, hrs⟩

/-- A field that is exposed is registered under an identifier that has not been used, which counts as
used from there on. -/
theorem registerAll_cons_of_some {r : Registration} (h : f.exposed? rule = some r) :
    registerAll rule (f :: fs) used = .ok rs ↔
      f.IsReadable ∧ r.id ∉ used ∧
        ∃ rest, registerAll rule fs (r.id :: used) = .ok rest ∧ rs = r :: rest := by
  simp only [registerAll, bind_eq_ok_iff, DeclaredField.registration?_eq_ok_iff, h]
  constructor
  · rintro ⟨_, ⟨hf, rfl⟩, hrs⟩
    dsimp only at hrs
    split at hrs
    case isTrue => cases hrs
    case isFalse hused =>
      obtain ⟨rest, hrest, hcons⟩ := bind_eq_ok_iff.1 hrs
      exact ⟨hf, by simpa using hused, rest, hrest, (Except.ok.inj hcons).symm⟩
  · rintro ⟨hf, hused, rest, hrest, rfl⟩
    have hcontains : used.contains r.id = false := by simpa using hused
    refine ⟨some r, ⟨hf, rfl⟩, ?_⟩
    simp only [hcontains, Bool.false_eq_true, if_false]
    exact bind_eq_ok_iff.2 ⟨rest, hrest, rfl⟩

/-- No identifier is repeated or used before, told from the first registration on. -/
theorem nodup_cons_ids_iff {r : Registration} :
    (((r :: rs).map Registration.id).Nodup ∧ ∀ s ∈ r :: rs, s.id ∉ used) ↔
      r.id ∉ used ∧ (rs.map Registration.id).Nodup ∧ ∀ s ∈ rs, s.id ∉ r.id :: used := by
  rw [List.map_cons, List.nodup_cons, List.mem_map, List.forall_mem_cons]
  simp only [List.mem_cons, not_or, not_exists, not_and]
  constructor
  · rintro ⟨⟨hne, hnodup⟩, hr, hfresh⟩
    exact ⟨hr, hnodup, fun s hs => ⟨hne s hs, hfresh s hs⟩⟩
  · rintro ⟨hr, hnodup, hfresh⟩
    exact ⟨⟨fun s hs => (hfresh s hs).1, hnodup⟩, hr, fun s hs => (hfresh s hs).2⟩

/-- The fields are registered if the attributes of each can be read and no identifier is repeated,
neither one of the fields nor one that has been used before. -/
theorem registerAll_eq_ok_iff :
    registerAll rule fs used = .ok rs ↔
      (∀ f ∈ fs, f.IsReadable) ∧ rs = fs.filterMap (·.exposed? rule) ∧
        (rs.map Registration.id).Nodup ∧ ∀ r ∈ rs, r.id ∉ used := by
  induction fs generalizing used rs with
  | nil =>
    constructor
    · intro h
      cases h
      simp
    · rintro ⟨-, rfl, -⟩
      rfl
  | cons f fs ih =>
    rw [List.forall_mem_cons]
    cases h : f.exposed? rule with
    | none => rw [registerAll_cons_of_none h, ih, List.filterMap_cons_none h, and_assoc]
    | some r =>
      rw [registerAll_cons_of_some h, List.filterMap_cons_some h]
      simp only [ih]
      constructor
      · rintro ⟨hf, hr, _, ⟨hfs, rfl, hids⟩, rfl⟩
        exact ⟨⟨hf, hfs⟩, rfl, nodup_cons_ids_iff.2 ⟨hr, hids⟩⟩
      · rintro ⟨⟨hf, hfs⟩, rfl, hids⟩
        obtain ⟨hr, hids⟩ := nodup_cons_ids_iff.1 hids
        exact ⟨hf, hr, _, ⟨hfs, rfl, hids⟩, rfl⟩

/-- The registrations of the exposed fields in their order. -/
def exposed (d : Declaration) (rule : RenameRule) : List Registration :=
  d.fields.filterMap (·.exposed? rule)

variable {d : Declaration} {out : Derivation}

theorem namedFields_eq_ok_iff : d.namedFields = .ok fs ↔ d.shape = .named ∧ fs = d.fields := by
  unfold namedFields
  cases d.shape <;> simp [eq_comm]

/-- A declaration becomes a field map if its attributes and those of its fields can be read, its
fields have names, no two exposed fields share an identifier and it has no lifetime. -/
theorem derive_eq_ok_iff : d.derive = .ok out ↔
    ∃ rule, ContainerAttribute.ofAttributes d.attributes = .ok rule ∧ d.shape = .named ∧
      (∀ f ∈ d.fields, f.IsReadable) ∧ ((d.exposed rule).map Registration.id).Nodup ∧
      .lifetime ∉ d.parameters ∧
      out = ⟨(d.exposed rule).map Registration.constant, d.exposed rule⟩ := by
  unfold derive
  simp only [bind_eq_ok_iff, namedFields_eq_ok_iff, registerAll_eq_ok_iff]
  constructor
  · rintro ⟨rule, hrule, _, ⟨hshape, rfl⟩, _, ⟨hreadable, rfl, hnodup, -⟩, hout⟩
    split at hout
    case isTrue => cases hout
    case isFalse hlifetime =>
      exact ⟨rule, hrule, hshape, hreadable, hnodup, by simpa using hlifetime,
        (Except.ok.inj hout).symm⟩
  · rintro ⟨rule, hrule, hshape, hreadable, hnodup, hlifetime, rfl⟩
    have hcontains : d.parameters.contains .lifetime = false := by simpa using hlifetime
    refine ⟨rule, hrule, _, ⟨hshape, rfl⟩, _, ⟨hreadable, rfl, hnodup, fun _ _ => by simp⟩, ?_⟩
    rw [hcontains]
    rfl

end Declaration

/-- A field map and constants expose the fields of a record under a rule: there is one entry for each
exposed field, with its identifier, its type and a reading of that field, and a constant that holds
the identifier. -/
structure Derivation.Exposes (out : Derivation) (rule : RenameRule) (fields : List DeclaredField) :
    Prop where
  entries : out.fieldMap.accessors.entries.Perm
    ((fields.filterMap (·.exposed? rule)).map fun r => (r.id, r.accessor))
  ids_nodup : ((fields.filterMap (·.exposed? rule)).map Registration.id).Nodup
  found : ∀ f ∈ fields, ∀ type, f.exposedType? = some type →
    ∃ a, out.fieldMap.find? (f.identifier rule) = some a ∧ a.type = type ∧
      ∀ record, (record f.name).Fits type → a.value record = record f.name
  constants : out.constants = (fields.filterMap (·.exposed? rule)).map Registration.constant

namespace Registration

theorem accessor_value {r : Registration} {record : String → Value}
    (h : (record r.field).Fits r.type) : r.accessor.value record = record r.field := by
  rw [accessor, Accessor.value_ofValue]
  rcases h with hnull | htype
  · rw [hnull, ite_self]
  · rw [if_pos htype]

end Registration

namespace Declaration

/-- What a declaration becomes exposes its fields under the rule that the declaration asks for. Where
two exposed fields share an identifier it becomes nothing. -/
theorem derive_fieldMap (d : Declaration) :
    (∀ out, d.derive = .ok out → ∃ rule,
      ContainerAttribute.ofAttributes d.attributes = .ok rule ∧ out.Exposes rule d.fields) ∧
    ∀ rule before f between g after, ContainerAttribute.ofAttributes d.attributes = .ok rule →
      d.fields = before ++ f :: (between ++ g :: after) →
      f.exposedType?.isSome → g.exposedType?.isSome → f.identifier rule = g.identifier rule →
      ∃ e, d.derive = .error e := by
  constructor
  · intro out hout
    obtain ⟨rule, hrule, -, -, hnodup, -, rfl⟩ := derive_eq_ok_iff.1 hout
    have hkeys : (((d.exposed rule).map fun r => (r.id, r.accessor)).map Prod.fst).Nodup := by
      rw [List.map_map]
      exact hnodup
    refine ⟨rule, hrule, FieldMap.entries_ofList_perm hkeys, hnodup, ?_, rfl⟩
    intro f hf type htype
    have hmem : (⟨f.identifier rule, type, f.name⟩ : Registration) ∈ d.exposed rule :=
      List.mem_filterMap.2 ⟨f, hf, DeclaredField.exposed?_eq_some htype⟩
    refine ⟨_, (FieldMap.find?_ofList_eq_some_iff hkeys).2 (List.mem_map_of_mem hmem),
      Accessor.type_ofValue _ _, fun record hfits => Registration.accessor_value hfits⟩
  · intro rule before f between g after hrule hfields hf hg hid
    rcases eq_ok_or_eq_error d.derive with ⟨out, hout⟩ | herror
    · obtain ⟨rule', hrule', -, -, hnodup, -⟩ := derive_eq_ok_iff.1 hout
      obtain rfl := Except.ok.inj (hrule.symm.trans hrule')
      obtain ⟨ftype, hftype⟩ := Option.isSome_iff_exists.1 hf
      obtain ⟨gtype, hgtype⟩ := Option.isSome_iff_exists.1 hg
      rw [exposed, hfields, List.filterMap_append,
        List.filterMap_cons_some (DeclaredField.exposed?_eq_some hftype), List.filterMap_append,
        List.filterMap_cons_some (DeclaredField.exposed?_eq_some hgtype)] at hnodup
      simp only [List.map_append, List.map_cons, ← hid] at hnodup
      -- The identifier of the first field stands among those behind it.
      have hbehind := (List.nodup_cons.1 (List.nodup_append.1 hnodup).2.1).1
      exact absurd (List.mem_append_right _ List.mem_cons_self) hbehind
    · exact herror

/-- A keyword as a name, a field with an identifier of its own, and a second attribute that does not
count. Beside them, two fields that camelCase gives the same identifier. -/
theorem derive_fieldMap_of_raw_name :
    let d : Declaration := ⟨"Row", .named, [], [[.setting "rename_all" (some "camelCase")]],
      [⟨"r#type", [[.path ["Text"]]]⟩,
        ⟨"is_read", [[.setting "rename" (some "read"), .setting "ty" (some "bool")]]⟩,
        ⟨"created_at", [[.path ["Timestamp"]], [.path ["skip"]]]⟩,
        ⟨"secret", [[.path ["skip"]]]⟩, ⟨"body", []⟩]⟩
    let clash : Declaration :=
      { d with fields := [⟨"a_b", [[.path ["Text"]]]⟩, ⟨"body", []⟩, ⟨"aB", [[.path ["Uuid"]]]⟩] }
    (∃ out, d.derive = .ok out ∧ out.Exposes .camelCase d.fields ∧
      out.constants = [⟨"TYPE", "type"⟩, ⟨"IS_READ", "read"⟩, ⟨"CREATED_AT", "createdAt"⟩] ∧
      ∃ a, out.fieldMap.find? "type" = some a ∧ a.value .text = .text "r#type") ∧
      ∃ e, clash.derive = .error e := by
  intro d clash
  have hout : d.derive = .ok
      ⟨[⟨"TYPE", "type"⟩, ⟨"IS_READ", "read"⟩, ⟨"CREATED_AT", "createdAt"⟩],
        [⟨"type", .text, "r#type"⟩, ⟨"read", .bool, "is_read"⟩,
          ⟨"createdAt", .timestamp, "created_at"⟩]⟩ := by
    rfl
  obtain ⟨rule, hrule, hexposes⟩ := (derive_fieldMap d).1 _ hout
  obtain rfl : .camelCase = rule := Except.ok.inj hrule
  obtain ⟨a, ha, -, hread⟩ := hexposes.found _ List.mem_cons_self .text rfl
  refine ⟨⟨_, hout, hexposes, rfl, a, ha, hread _ (.inr rfl)⟩, ?_⟩
  exact (derive_fieldMap clash).2 .camelCase [] _ [⟨"body", []⟩] _ [] rfl rfl rfl rfl rfl

end Declaration

end RecordQuery
