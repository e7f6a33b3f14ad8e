import RecordQuery.Proofs.Declaration.Derive

/-!
# The arrangement of items

The items of a field may be written in any order, and they may be spread over several attributes.

* `Exposure`, what a declaration makes of a field, the reason for a rejection left out;
* `FieldAttribute.exists_ofItems_iff`, which items are accepted together, and `Acceptable.perm`,
  which shows that their order does not matter for this;
* `DeclaredField.exposure_eq`, which tells from the items what is made of a field;
* `DeclaredField.exposure_eq_gathered_iff`, for which fields it does not matter that their items are
  spread over several attributes;
* `DeclaredField.exposure_of_items`, which sums up both, and
  `DeclaredField.exposure_of_second_skip`, a field that is exposed though an item leaves it out.
-/

namespace RecordQuery

open Outcome

/-- What a declaration makes of a field. -/
inductive Exposure
  | rejected
  | hidden
  | exposed (type : FieldType) (id : String)
  deriving DecidableEq

/-- The same is made of two fields, but for their identifiers. -/
inductive Exposure.Alike : Exposure → Exposure → Prop
  | rejected : Alike .rejected .rejected
  | hidden : Alike .hidden .hidden
  | exposed (type : FieldType) (id id' : String) : Alike (.exposed type id) (.exposed type id')

/-- The item says something of a field. -/
def AttributeItem.IsKnown (item : AttributeItem) : Prop :=
  item.isSkip = true ∨ item.type?.isSome ∨ item.rename?.isSome

section OneType

variable {α : Type} {xs ys : List α}

theorem head?_eq_of_perm (h : xs.Perm ys) (hone : xs.length ≤ 1) : xs.head? = ys.head? := by
  match xs with
  | [] => rw [List.nil_perm.1 h]
  | [x] => rw [List.singleton_perm.1 h]
  | _ :: _ :: _ => exact absurd hone (by simp)

theorem head?_eq_head?_append_iff (hone : (xs ++ ys).length ≤ 1) :
    xs.head? = (xs ++ ys).head? ↔ ys = [] := by
  cases xs with
  | nil => simp [eq_comm]
  | cons x xs =>
    rw [List.length_append, List.length_cons] at hone
    have hys : ys = [] := List.length_eq_zero_iff.1 (by omega)
    simp [hys]

end OneType

namespace FieldAttribute

variable {a : FieldAttribute} {item : AttributeItem} {items later : List AttributeItem}

/-- The items of an attribute that is accepted: each of them is known, at most one gives the type,
and one that leaves the field out stands beside none that gives a type or an identifier. -/
structure Acceptable (items : List AttributeItem) : Prop where
  known : ∀ item ∈ items, item.IsKnown
  types : (items.filterMap AttributeItem.type?).length ≤ 1
  alone : items.any AttributeItem.isSkip = true →
    items.filterMap AttributeItem.type? = [] ∧ items.filterMap AttributeItem.rename? = []

theorem exists_setType_iff {name : String} :
    (∃ b, a.setType name = .ok b) ↔ (FieldType.ofAttributeName? name).isSome ∧ a.type = none := by
  simp only [setType_eq_ok_iff, Option.isSome_iff_exists]
  constructor
  · rintro ⟨b, type, htype, hnone, -⟩
    exact ⟨⟨type, htype⟩, hnone⟩
  · rintro ⟨⟨type, htype⟩, hnone⟩
    exact ⟨_, type, htype, hnone, rfl⟩

/-- An item that does nothing but give a type. -/
theorem exists_add_iff_of_setType {name : String} (hadd : a.add item = a.setType name)
    (hskip : item.isSkip = false) (htype : item.type? = FieldType.ofAttributeName? name)
    (hrename : item.rename? = none) :
    (∃ b, a.add item = .ok b) ↔ item.IsKnown ∧ (item.type? = none ∨ a.type = none) := by
  rw [hadd, exists_setType_iff, AttributeItem.IsKnown, hskip, htype, hrename]
  cases FieldType.ofAttributeName? name <;> simp

/-- An item that is refused. -/
theorem exists_add_iff_of_error {e : DeclarationError} (hadd : a.add item = .error e)
    (hskip : item.isSkip = false) (htype : item.type? = none) (hrename : item.rename? = none) :
    (∃ b, a.add item = .ok b) ↔ item.IsKnown ∧ (item.type? = none ∨ a.type = none) := by
  rw [hadd, AttributeItem.IsKnown, hskip, htype, hrename]
  simp

/-- An item is added if it is known and gives no second type. -/
theorem exists_add_iff :
    (∃ b, a.add item = .ok b) ↔ item.IsKnown ∧ (item.type? = none ∨ a.type = none) := by
  match item with
  | .path [name] =>
    by_cases hskip : name = "skip"
    · subst hskip
      exact iff_of_true ⟨_, rfl⟩ ⟨.inl rfl, .inl (by decide)⟩
    · exact exists_add_iff_of_setType (if_neg hskip) (by simp [AttributeItem.isSkip, hskip]) rfl rfl
  | .path [] => exact exists_add_iff_of_error rfl rfl rfl rfl
  | .path (_ :: _ :: _) =>
    exact exists_add_iff_of_error rfl (by simp [AttributeItem.isSkip]) rfl rfl
  | .setting name value =>
    by_cases hrename : name = "rename"
    · subst hrename
      cases value with
      | none => exact exists_add_iff_of_error rfl rfl rfl rfl
      | some value => exact iff_of_true ⟨_, rfl⟩ ⟨.inr (.inr rfl), .inl rfl⟩
    by_cases hty : name = "ty"
    · subst hty
      cases value with
      | none => exact exists_add_iff_of_error rfl rfl rfl rfl
      | some value => exact exists_add_iff_of_setType rfl rfl rfl rfl
    · have hadd : a.add (.setting name value) = .error .unknownSetting := by
        rw [add, if_neg hrename, if_neg hty]
      refine exists_add_iff_of_error hadd rfl ?_ (if_neg hrename)
      cases value with
      | none => rfl
      | some value => exact if_neg hty
  | .list _ => exact exists_add_iff_of_error rfl rfl rfl rfl

/-- The types that an attribute and an item give, one after the other. -/
theorem toList_or_append (h : item.type? = none ∨ a.type = none) :
    (a.type.or item.type?).toList ++ items.filterMap AttributeItem.type? =
      a.type.toList ++ (item :: items).filterMap AttributeItem.type? := by
  rcases h with h | h <;> cases htype : item.type? <;> simp_all

/-- Known items are added one after the other, if they give one type at most. -/
theorem exists_foldlM_add_iff :
    (∃ b, items.foldlM add a = .ok b) ↔ (∀ item ∈ items, item.IsKnown) ∧
      (a.type.toList ++ items.filterMap AttributeItem.type?).length ≤ 1 := by
  induction items generalizing a with
  | nil => cases a.type <;> simp [pure, Except.pure]
  | cons item items ih =>
    rw [List.forall_mem_cons]
    constructor
    · rintro ⟨b, hb⟩
      obtain ⟨c, hc, hb⟩ := bind_eq_ok_iff.1 hb
      obtain ⟨hknown, hone⟩ := exists_add_iff.1 ⟨c, hc⟩
      obtain ⟨hrest, htypes⟩ := ih.1 ⟨b, hb⟩
      rw [add_eq_ok hc, toList_or_append hone] at htypes
      exact ⟨⟨hknown, hrest⟩, htypes⟩
    · rintro ⟨⟨hknown, hrest⟩, htypes⟩
      have hone : item.type? = none ∨ a.type = none := by
        cases hitem : item.type? <;> cases ha : a.type <;> simp_all
      obtain ⟨c, hc⟩ := exists_add_iff.2 ⟨hknown, hone⟩
      rw [← toList_or_append hone] at htypes
      obtain ⟨b, hb⟩ := (ih (a := c)).2 ⟨hrest, by rwa [add_eq_ok hc]⟩
      exact ⟨b, bind_eq_ok_iff.2 ⟨c, hc, hb⟩⟩

/-- An item that leaves the field out is checked at the end. -/
theorem exists_ofItems_iff_of_foldlM {b : FieldAttribute} (hb : items.foldlM add {} = .ok b) :
    (∃ a, ofItems items = .ok a) ↔ (items.any AttributeItem.isSkip = true →
      items.filterMap AttributeItem.type? = [] ∧ items.filterMap AttributeItem.rename? = []) := by
  have hcheck : (b.skip && (b.type.isSome || b.rename.isSome)) = true ↔
      ¬(items.any AttributeItem.isSkip = true →
        items.filterMap AttributeItem.type? = [] ∧ items.filterMap AttributeItem.rename? = []) := by
    rw [foldlM_add_eq_ok hb]
    simp only [Option.none_or, Option.or_none, Bool.false_or, Bool.and_eq_true, Bool.or_eq_true,
      List.isSome_head?, List.getLast?_isSome, Classical.not_imp, not_and_or, ne_eq]
  rw [ofItems, hb, ok_bind]
  split
  case isTrue h => exact iff_of_false nofun (hcheck.1 h)
  case isFalse h => exact iff_of_true ⟨b, rfl⟩ (not_not.1 (mt hcheck.2 h))

/-- An attribute is accepted if its items are acceptable. -/
theorem exists_ofItems_iff : (∃ a, ofItems items = .ok a) ↔ Acceptable items := by
  have hitems : (∃ a, items.foldlM add {} = .ok a) ↔ (∀ item ∈ items, item.IsKnown) ∧
      (items.filterMap AttributeItem.type?).length ≤ 1 := exists_foldlM_add_iff
  constructor
  · rintro ⟨a, ha⟩
    obtain ⟨b, hb, -⟩ := bind_eq_ok_iff.1 ha
    obtain ⟨hknown, htypes⟩ := hitems.1 ⟨b, hb⟩
    exact ⟨hknown, htypes, (exists_ofItems_iff_of_foldlM hb).1 ⟨a, ha⟩⟩
  · intro h
    obtain ⟨b, hb⟩ := hitems.2 ⟨h.known, h.types⟩
    exact (exists_ofItems_iff_of_foldlM hb).2 h.alone

theorem Acceptable.perm {items' : List AttributeItem} (h : Acceptable items)
    (hperm : items.Perm items') : Acceptable items' where
  known item hitem := h.known item (hperm.mem_iff.2 hitem)
  types := (hperm.filterMap _).length_eq ▸ h.types
  alone hskip := by
    obtain ⟨htypes, hnames⟩ := h.alone (hperm.any_eq ▸ hskip)
    have htypes' := hperm.filterMap AttributeItem.type?
    have hnames' := hperm.filterMap AttributeItem.rename?
    rw [htypes] at htypes'
    rw [hnames] at hnames'
    exact ⟨List.nil_perm.1 htypes', List.nil_perm.1 hnames'⟩

theorem Acceptable.of_append (h : Acceptable (items ++ later)) : Acceptable items where
  known item hitem := h.known item (List.mem_append_left _ hitem)
  types := by
    have htypes := h.types
    rw [List.filterMap_append, List.length_append] at htypes
    omega
  alone hskip := by
    obtain ⟨htypes, hnames⟩ := h.alone (by rw [List.any_append, hskip, Bool.true_or])
    rw [List.filterMap_append, List.append_eq_nil_iff] at htypes hnames
    exact ⟨htypes.1, hnames.1⟩

end FieldAttribute

namespace DeclaredField

open FieldAttribute

variable {rule : RenameRule} {f g : DeclaredField}

/-- What is made of a field in a record of the given style. -/
def exposure (rule : RenameRule) (f : DeclaredField) : Exposure :=
  match f.registration? rule with
  | .error _ => .rejected
  | .ok none => .hidden
  | .ok (some r) => .exposed r.type r.id

/-- The identifier that the items give; the last one counts. -/
def givenId? (f : DeclaredField) : Option String :=
  (f.items.filterMap AttributeItem.rename?).getLast?

/-- The items of all attributes but the first one. -/
def laterItems (f : DeclaredField) : List AttributeItem :=
  f.attributes.tail.flatten

/-- The field with all its items in one attribute. -/
def gathered (f : DeclaredField) : DeclaredField :=
  { f with attributes := [f.attributes.flatten] }

theorem items_gathered (f : DeclaredField) : f.gathered.items = f.items ++ f.laterItems := by
  unfold items laterItems
  show f.attributes.flatten = _
  cases f.attributes <;> rfl

theorem isReadable_iff : f.IsReadable ↔ Acceptable f.items := by
  rw [IsReadable, f.ofAttributes_eq_ofItems, exists_ofItems_iff]

/-- A field with acceptable items is exposed if they give a type and do not leave it out. -/
theorem exposure_eq (h : Acceptable f.items) :
    f.exposure rule = f.exposedType?.elim .hidden (.exposed · (f.identifier rule)) := by
  have hregistration : f.registration? rule = .ok (f.exposed? rule) :=
    registration?_eq_ok_iff.2 ⟨isReadable_iff.2 h, rfl⟩
  rw [exposure, hregistration, exposed?]
  cases f.exposedType? <;> rfl

theorem exposure_eq_rejected_iff : f.exposure rule = .rejected ↔ ¬Acceptable f.items := by
  constructor
  · intro hrejected h
    rw [exposure_eq h] at hrejected
    cases htype : f.exposedType? <;> rw [htype] at hrejected <;> cases hrejected
  · intro h
    rcases eq_ok_or_eq_error (f.registration? rule) with ⟨r, hr⟩ | ⟨e, he⟩
    · exact absurd (isReadable_iff.1 (registration?_eq_ok_iff.1 hr).1) h
    · rw [exposure, he]

/-- Acceptable items do not leave out a field to which they give a type. -/
theorem exposedType?_eq (h : Acceptable f.items) :
    f.exposedType? = (f.items.filterMap AttributeItem.type?).head? := by
  unfold exposedType?
  split
  case isTrue hskip => rw [(h.alone hskip).1, List.head?_nil]
  case isFalse => rfl

theorem exposure_eq_exposure_iff (hf : Acceptable f.items) (hg : Acceptable g.items) :
    f.exposure rule = g.exposure rule ↔ f.exposedType? = g.exposedType? ∧
      (f.exposedType?.isSome → f.identifier rule = g.identifier rule) := by
  rw [exposure_eq hf, exposure_eq hg]
  cases f.exposedType? <;> cases g.exposedType? <;> simp

/-! ### The order of items -/

theorem exposedType?_of_perm (hf : Acceptable f.items) (hperm : f.items.Perm g.items) :
    f.exposedType? = g.exposedType? := by
  rw [exposedType?_eq hf, exposedType?_eq (hf.perm hperm)]
  exact head?_eq_of_perm (hperm.filterMap AttributeItem.type?) hf.types

/-- The same is made of fields with the same items in any order, but the identifier is the last one
that is given. -/
theorem exposure_of_perm (hname : f.name = g.name) (hperm : f.items.Perm g.items) :
    (f.exposure rule).Alike (g.exposure rule) ∧
      (f.givenId? = g.givenId? → f.exposure rule = g.exposure rule) := by
  by_cases hf : Acceptable f.items
  · have htype := exposedType?_of_perm hf hperm
    have hg := hf.perm hperm
    constructor
    · rw [exposure_eq hf, exposure_eq hg, htype]
      cases g.exposedType? with
      | none => exact .hidden
      | some type => exact .exposed type _ _
    · intro hid
      refine (exposure_eq_exposure_iff hf hg).2 ⟨htype, fun _ => ?_⟩
      show f.givenId?.getD _ = g.givenId?.getD _
      rw [hid, hname]
  · have hg : ¬Acceptable g.items := fun hg => hf (hg.perm hperm.symm)
    rw [exposure_eq_rejected_iff.2 hf, exposure_eq_rejected_iff.2 hg]
    exact ⟨.rejected, fun _ => rfl⟩

/-! ### Several attributes -/

/-- A field is treated as one with all its items in one attribute if it is rejected, or if these are
acceptable, none behind the first attribute gives a type, and the last identifier is the same. -/
theorem exposure_eq_gathered_iff (rule : RenameRule) (f : DeclaredField) :
    f.exposure rule = f.gathered.exposure rule ↔
      f.exposure rule = .rejected ∨ f.gathered.exposure rule ≠ .rejected ∧
        (∀ item ∈ f.laterItems, item.type? = none) ∧
        (f.exposedType?.isSome → f.identifier rule = f.gathered.identifier rule) := by
  have hitems := f.items_gathered
  by_cases hf : Acceptable f.items
  · by_cases hg : Acceptable f.gathered.items
    · have hlength := hg.types
      rw [exposure_eq_exposure_iff hf hg, exposedType?_eq hf, exposedType?_eq hg]
      simp only [exposure_eq_rejected_iff, hf, hg, not_true_eq_false, false_or, ne_eq,
        not_false_eq_true, true_and]
      refine and_congr_left fun _ => ?_
      rw [← List.filterMap_eq_nil_iff]
      rw [hitems, List.filterMap_append] at hlength ⊢
      exact head?_eq_head?_append_iff hlength
    · rw [exposure_eq_rejected_iff.2 hg]
      simp
  · have hg : ¬Acceptable f.gathered.items := fun hg => hf (hitems ▸ hg).of_append
    exact iff_of_true (by rw [exposure_eq_rejected_iff.2 hf, exposure_eq_rejected_iff.2 hg])
      (.inl (exposure_eq_rejected_iff.2 hf))

/-- A field with an item that leaves it out among the items that count is not exposed. -/
theorem exposure_ne_exposed (h : .path ["skip"] ∈ f.items) (type : FieldType) (id : String) :
    f.exposure rule ≠ .exposed type id := by
  by_cases hf : Acceptable f.items
  · have hskip : f.items.any AttributeItem.isSkip = true := List.any_eq_true.2 ⟨_, h, rfl⟩
    rw [exposure_eq hf, exposedType?, if_pos hskip]
    exact nofun
  · rw [exposure_eq_rejected_iff.2 hf]
    exact nofun

/-- What is made of a field depends on the items of its first attribute, in any order, and on the
last identifier among them. An item among them that leaves the field out is obeyed. What stands in
further attributes does not count, so that splitting an attribute makes no difference only as long
as the items left in the first one are refused, or all of them are acceptable together and those
split off give neither the type nor the identifier that counts. -/
theorem exposure_of_items (rule : RenameRule) (f : DeclaredField) :
    (∀ g : DeclaredField, f.name = g.name → f.items.Perm g.items →
      (f.exposure rule).Alike (g.exposure rule) ∧
        (f.givenId? = g.givenId? → f.exposure rule = g.exposure rule)) ∧
    (.path ["skip"] ∈ f.items → ∀ type id, f.exposure rule ≠ .exposed type id) ∧
    (f.exposure rule = f.gathered.exposure rule ↔
      f.exposure rule = .rejected ∨ f.gathered.exposure rule ≠ .rejected ∧
        (∀ item ∈ f.laterItems, item.type? = none) ∧
        (f.exposedType?.isSome → f.identifier rule = f.gathered.identifier rule)) :=
  ⟨fun _ => exposure_of_perm, exposure_ne_exposed, f.exposure_eq_gathered_iff rule⟩

/-- Two identifiers, of which the last one stays the last, and an item that is split off without a
difference. -/
theorem exposure_of_items_of_two_names :
    let created : AttributeItem := .setting "rename" (some "created")
    let made : AttributeItem := .setting "rename" (some "made")
    let f : DeclaredField := ⟨"at", [[.path ["Timestamp"], created, made]]⟩
    let g : DeclaredField := ⟨"at", [[created, made, .path ["Timestamp"]]]⟩
    let hidden : DeclaredField := ⟨"at", [[], [.path ["skip"]]]⟩
    f.exposure .none = .exposed .timestamp "made" ∧ f.exposure .none = g.exposure .none ∧
      hidden.exposure .none = hidden.gathered.exposure .none ∧
      hidden.gathered.exposure .none ≠ .exposed .timestamp "at" := by
  intro created made f g hidden
  have hperm : f.items.Perm g.items := by decide
  obtain ⟨horder, -, -⟩ := exposure_of_items .none f
  obtain ⟨-, -, hsplit⟩ := exposure_of_items .none hidden
  obtain ⟨-, hskip, -⟩ := exposure_of_items .none hidden.gathered
  exact ⟨by decide, (horder g rfl hperm).2 rfl, hsplit.2 (.inr (by decide)), hskip (by decide) _ _⟩

/-- An item that leaves the field out is not obeyed in a second attribute, though in the first one
it would be refused beside the type. Of two identifiers the order decides. -/
theorem exposure_of_second_skip :
    let f : DeclaredField := ⟨"secret", [[.path ["Text"]], [.path ["skip"]]]⟩
    let a : AttributeItem := .setting "rename" (some "a")
    let b : AttributeItem := .setting "rename" (some "b")
    f.exposure .none = .exposed .text "secret" ∧ f.gathered.exposure .none = .rejected ∧
      exposure .none ⟨"name", [[.path ["Text"], a, b]]⟩ = .exposed .text "b" ∧
      exposure .none ⟨"name", [[.path ["Text"], b, a]]⟩ = .exposed .text "a" := by
  decide

end DeclaredField

end RecordQuery
