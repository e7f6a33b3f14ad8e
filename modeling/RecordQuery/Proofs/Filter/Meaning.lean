import RecordQuery.Proofs.Value.Comparison
import RecordQuery.Coercion
import RecordQuery.Field.Map
import RecordQuery.Filter.Basic

/-!
# The meaning of filters

What a filter says of a record, told from the tree alone, without predicates.

* `Value.Contains` and `Operator.Relates`, what an operator says of two values;
* `FieldMap.Among`, a field that has one of the values of a list;
* `Filter.Holds`, what a filter says of a record.
-/

namespace RecordQuery

variable {R : Type}

/-- A text in which the characters of another one stand next to each other. -/
def Value.Contains (v w : Value) : Prop :=
  ∃ s t, v = .text s ∧ w = .text t ∧ t.toList <:+: s.toList

/-- What an operator for one value says of the value of a field and an operand. A negated operator
says that its positive one does not hold. -/
def Operator.Relates : Operator → Value → Value → Prop
  | .eq, v, w => v.Same w
  | .notEq, v, w => ¬v.Same w
  | .gt, v, w => w.Before v
  | .gte, v, w => w.AtMost v
  | .lt, v, w => v.Before w
  | .lte, v, w => v.AtMost w
  | .contains, v, w => v.Contains w
  | .notContains, v, w => ¬v.Contains w
  | _, _, _ => False

/-- The field of the record has the same value as one of the operands. -/
def FieldMap.Among (m : FieldMap R) (r : R) (field : String) (operands : List Operand) : Prop :=
  ∃ a, m.find? field = some a ∧
    ∃ o ∈ operands, ∃ v, coerce field a.type o = .ok v ∧ (a.value r).Same v

/-- What a filter says of a record. -/
def Filter.Holds (m : FieldMap R) (r : R) : Filter → Prop
  | .value field op operand =>
    ∃ a v, m.find? field = some a ∧ coerce field a.type operand = .ok v ∧ op.Relates (a.value r) v
  | .membership field .isIn operands => m.Among r field operands
  | .membership field _ operands => ¬m.Among r field operands
  | .logical .and children => ∀ f, (_ : f ∈ children) → f.Holds m r
  | .logical _ children => ∃ f, ∃ _ : f ∈ children, f.Holds m r

section Meaning

variable {m : FieldMap R} {r : R} {field : String} {a : Accessor R}

theorem FieldMap.among_iff (ha : m.find? field = some a) {operands : List Operand} :
    m.Among r field operands ↔
      ∃ o ∈ operands, ∃ v, coerce field a.type o = .ok v ∧ (a.value r).Same v := by
  unfold Among
  simp only [ha, Option.some.injEq, exists_eq_left']

namespace Filter

theorem holds_value_iff {op : Operator} {operand : Operand} {v : Value}
    (ha : m.find? field = some a) (hv : coerce field a.type operand = .ok v) :
    (value field op operand).Holds m r ↔ op.Relates (a.value r) v := by
  rw [Holds]
  constructor
  · rintro ⟨b, w, hb, hw, h⟩
    obtain rfl := Option.some.inj (ha.symm.trans hb)
    obtain rfl := Except.ok.inj (hv.symm.trans hw)
    exact h
  · intro h
    exact ⟨a, v, ha, hv, h⟩

theorem holds_membership_iff {op : Operator} (hop : op.kind = .membership)
    {operands : List Operand} :
    (membership field op operands).Holds m r ↔
      if op.isNegated then ¬m.Among r field operands else m.Among r field operands := by
  cases op with
  | isIn =>
    rw [Holds]
    rfl
  | notIn =>
    rw [Holds]
    · rfl
    · exact nofun
  | _ => cases hop

theorem holds_and_iff {children : List Filter} :
    (logical .and children).Holds m r ↔ ∀ f ∈ children, f.Holds m r := by
  rw [Holds]

theorem holds_or_iff {children : List Filter} :
    (logical .or children).Holds m r ↔ ∃ f ∈ children, f.Holds m r := by
  rw [Holds]
  · simp only [exists_prop]
  · exact nofun

end Filter

end Meaning

end RecordQuery
