import RecordQuery.Declaration.Attribute
import RecordQuery.Proofs.Outcome

/-!
# What the items of an attribute say

An attribute is read item by item, and each item adds what it says to what those before it have said.

* `AttributeItem.type?`, `AttributeItem.isSkip` and `AttributeItem.rename?`, what an item says alone;
* `FieldAttribute.add_eq_ok`, which shows that this is what the item adds;
* `FieldAttribute.ofItems_eq_ok`, which tells an attribute from its items: one of them may give the
  type, and the last name counts.
-/

namespace RecordQuery

open Outcome

namespace AttributeItem

/-- The type that an item gives to a field. -/
def type? : AttributeItem → Option FieldType
  | .path [name] => FieldType.ofAttributeName? name
  | .setting name (some value) => if name = "ty" then FieldType.ofAttributeName? value else none
  | _ => none

/-- The item says that a field is left out. -/
def isSkip (item : AttributeItem) : Bool :=
  item = .path ["skip"]

/-- The identifier that an item gives to a field. -/
def rename? : AttributeItem → Option String
  | .setting name value => if name = "rename" then value else none
  | _ => none

end AttributeItem

namespace FieldAttribute

variable {a b : FieldAttribute} {item : AttributeItem} {items : List AttributeItem}

theorem stringValue_eq_ok_iff {name : String} {value : Option String} {s : String} :
    stringValue name value = .ok s ↔ value = some s := by
  cases value <;> simp [stringValue]

/-- A type is given by one of its names, and only once. -/
theorem setType_eq_ok_iff {name : String} : a.setType name = .ok b ↔
    ∃ type, FieldType.ofAttributeName? name = some type ∧ a.type = none ∧
      b = { a with type := some type } := by
  unfold setType
  cases FieldType.ofAttributeName? name with
  | none => simp
  | some type => cases a.type <;> simp [eq_comm]

/-- An item adds what it says alone. The first type and the last identifier count. -/
theorem add_eq_ok (h : a.add item = .ok b) :
    b = ⟨a.type.or item.type?, a.skip || item.isSkip, item.rename?.or a.rename⟩ := by
  match item with
  | .path [name] =>
    rw [add] at h
    split at h
    case isTrue hskip =>
      subst hskip
      cases h
      simp [AttributeItem.type?, AttributeItem.isSkip, AttributeItem.rename?,
        show FieldType.ofAttributeName? "skip" = none by decide]
    case isFalse hskip =>
      obtain ⟨type, htype, hnone, rfl⟩ := setType_eq_ok_iff.1 h
      simp [AttributeItem.type?, AttributeItem.isSkip, AttributeItem.rename?, hskip, htype, hnone]
  | .path [] => cases h
  | .path (_ :: _ :: _) => cases h
  | .setting name value =>
    rw [add] at h
    split at h
    case isTrue hrename =>
      obtain ⟨s, hs, hb⟩ := bind_eq_ok_iff.1 h
      obtain rfl := stringValue_eq_ok_iff.1 hs
      cases hb
      subst hrename
      simp [AttributeItem.type?, AttributeItem.isSkip, AttributeItem.rename?]
    case isFalse hrename =>
      split at h
      case isTrue hty =>
        obtain ⟨s, hs, hb⟩ := bind_eq_ok_iff.1 h
        obtain rfl := stringValue_eq_ok_iff.1 hs
        obtain ⟨type, htype, hnone, rfl⟩ := setType_eq_ok_iff.1 hb
        simp [AttributeItem.type?, AttributeItem.isSkip, AttributeItem.rename?, hty, htype, hnone]
      case isFalse => cases h
  | .list _ => cases h

/-- What several items add. -/
theorem foldlM_add_eq_ok (h : items.foldlM add a = .ok b) :
    b = ⟨a.type.or (items.filterMap AttributeItem.type?).head?,
      a.skip || items.any AttributeItem.isSkip,
      (items.filterMap AttributeItem.rename?).getLast?.or a.rename⟩ := by
  induction items generalizing a with
  | nil =>
    cases h
    simp
  | cons item items ih =>
    rw [List.foldlM_cons] at h
    obtain ⟨c, hc, hb⟩ := bind_eq_ok_iff.1 h
    rw [ih hb, add_eq_ok hc]
    congr 1
    · cases htype : item.type? <;> simp [htype]
    · rw [List.any_cons, Bool.or_assoc]
    · cases hrename : item.rename? <;> simp [hrename, List.getLast?_cons]

/-- What an attribute says of a field is what its items say. -/
theorem ofItems_eq_ok (h : ofItems items = .ok a) :
    a = ⟨(items.filterMap AttributeItem.type?).head?, items.any AttributeItem.isSkip,
      (items.filterMap AttributeItem.rename?).getLast?⟩ := by
  obtain ⟨b, hb, hcheck⟩ := bind_eq_ok_iff.1 h
  split at hcheck
  case isTrue => cases hcheck
  case isFalse =>
    cases hcheck
    rw [foldlM_add_eq_ok hb]
    simp

end FieldAttribute

end RecordQuery
