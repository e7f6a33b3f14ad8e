import RecordQuery.Proofs.Decode.Object
import RecordQuery.Proofs.Filter.RoundTrip

/-!
# How the parts of a node are read

* `Operator.reader_eq_ok_iff` and `Operand.reader_eq_ok_iff`, from what operators and operands are
  read;
* `Filter.read_agreeBelow`, which shows by induction on the nesting that a filter is read alike
  wherever there is room for it, so that the children of a node are read as filters of their own;
* `Filter.operands_eq_some_iff` and `Filter.children_eq_some_iff`, from what lists of them are read;
* `Filter.shape_fills` and `Filter.exists_member_iff`, the members of a node as a whole.
-/

namespace RecordQuery

open Outcome

/-- The operand is the literal of a JSON value. -/
def Operand.IsLiteralOf (o : Operand) (v : Json) : Prop :=
  ∃ l : Literal, o = .literal l ∧ l.json = v.normal

theorem Operand.reader_eq_ok_iff {room : Nat} {v : Json} (hv : v.Readable) (hroom : v.depth ≤ room)
    {o : Operand} : reader room (.ofJson v) = .ok o ↔ o.IsLiteralOf v := by
  show (Reader.free room (.ofJson v)).map literal = .ok o ↔ _
  simp only [map_eq_ok_iff, Reader.free_eq_ok_iff hv hroom]
  exact exists_congr fun l => and_comm.trans (and_congr_left' eq_comm)

theorem Operand.exists_isLiteralOf {v : Json} (hv : v.Readable) : ∃ o : Operand, o.IsLiteralOf v :=
  let ⟨l, hl⟩ := hv.exists_literal
  ⟨.literal l, l, rfl, hl⟩

theorem Operator.symbol_inj {op op' : Operator} : op.symbol = op'.symbol ↔ op = op' := by
  refine ⟨fun h => ?_, congrArg _⟩
  have hsymbol := ofSymbol?_symbol op
  rw [h, ofSymbol?_symbol] at hsymbol
  exact (Option.some.inj hsymbol).symm

theorem Operator.reader_eq_ok_iff {room : Nat} {v : Json} {op : Operator} :
    reader room (.ofJson v) = .ok op ↔ v = .string op.symbol := by
  constructor
  · intro h
    cases v with
    | string s =>
      simp only [reader, Reader.parsed, Tree.ofJson] at h
      split at h
      · next op' hop =>
        obtain rfl := Except.ok.inj h
        rw [symbol_of_ofSymbol? hop]
      · cases h
    | _ => cases h
  · rintro rfl
    exact op.reader_takes room (Nat.zero_le _)

namespace Filter

/-! ### The room for a filter -/

/-- The children of a node are two levels below it. -/
theorem shape_agreesBelow {n : Nat} {child child' : Tree → Except Fault Filter}
    (h : ∀ v : Json, v.ReadableBelow (n - 1) → child (.ofJson v) = child' (.ofJson v)) :
    (Draft.shape child).AgreesBelow n (Draft.shape child') := by
  have hchildren : Reader.AgreeBelow n (.list fun _ => child) (.list fun _ => child') :=
    .list fun v hv _ _ _ _ => h v hv
  have hoperand : ∀ n, Reader.AgreeBelow n Operand.reader Operand.reader :=
    fun _ => Reader.free_agreeBelow.map _
  refine ⟨rfl, rfl, rfl, ?_⟩
  exact .cons ⟨rfl, rfl, Reader.text_agreeBelow.nullable.map _⟩ <|
    .cons ⟨rfl, rfl, (Reader.parsed_agreeBelow _ _).map _⟩ <|
    .cons ⟨rfl, rfl, (hoperand _).map _⟩ <|
    .cons ⟨rfl, rfl, (hoperand _).list.nullable.map _⟩ <|
    .cons ⟨rfl, rfl, hchildren.nullable.map _⟩ .nil

/-- What is read of a value does not depend on how much room there is. -/
theorem read_agreeBelow (n : Nat) : Reader.AgreeBelow n read read := by
  induction n with
  | zero => exact fun v hv => absurd hv.depth_lt (Nat.not_lt_zero _)
  | succ n ih =>
    intro v hv room room' hroom hroom'
    -- A child is inside of the object and of an array, so that both rooms are enough for it with
    -- two levels less.
    have hchild : ∀ w : Json, w.ReadableBelow (v.depth - 1) →
        childReader room (.ofJson w) = childReader room' (.ofJson w) := by
      intro w hw
      have hdepth := hv.depth_lt
      have hlt := hw.depth_lt
      obtain ⟨room, rfl⟩ : ∃ k, room = k + 2 := ⟨room - 2, by omega⟩
      obtain ⟨room', rfl⟩ : ∃ k, room' = k + 2 := ⟨room' - 2, by omega⟩
      exact ih w ⟨hw.readable, by omega⟩ room room' (by omega) (by omega)
    have hreader : Reader.AgreeBelow (v.depth + 1) (Draft.shape (childReader room)).reader
        (Draft.shape (childReader room')).reader := (shape_agreesBelow hchild).reader
    rw [read_eq, read_eq, readNode, readNode,
      hreader v ⟨hv.readable, Nat.lt_succ_self _⟩ room room' hroom hroom']

/-- A readable value is read alike wherever there is room for it. -/
theorem read_eq_ofJson {v : Json} (hv : v.Readable) {room : Nat} (hroom : v.depth ≤ room) :
    read room (.ofJson v) = ofJson v := by
  rw [ofJson, Reader.decodeJson_eq]
  exact read_agreeBelow _ v ⟨hv, Nat.lt_succ_self _⟩ room _ hroom (Nat.le_refl _)

/-- Children are read as filters of their own. -/
theorem childReader_eq_ofJson {room : Nat} {v : Json} (hv : v.Readable) (hroom : v.depth < room) :
    childReader (room + 1) (.ofJson v) = ofJson v := by
  obtain ⟨room, rfl, hle⟩ := exists_room_of_succ_le hroom
  exact read_eq_ofJson hv hle

/-! ### The members of a node -/

theorem shape_keys_nodup (child : Tree → Except Fault Filter) : (Draft.shape child).keys.Nodup := by
  show ["fieldId", "operator", "value", "values", "children"].Nodup
  decide

/-- Each part of a node is what the member of its key is read as. -/
theorem shape_fills (child : Tree → Except Fault Filter) (room : Nat) :
    (Draft.shape child).Fills room "fieldId" Draft.field (Reader.nullable .text room) ∧
    (Draft.shape child).Fills room "operator" Draft.op (Operator.reader room) ∧
    (Draft.shape child).Fills room "value" Draft.operand
      (fun t => (Operand.reader room t).map some) ∧
    (Draft.shape child).Fills room "values" Draft.operands
      (Reader.nullable (.list Operand.reader) room) ∧
    (Draft.shape child).Fills room "children" Draft.children
      (Reader.nullable (.list fun _ => child) room) := by
  refine ⟨⟨?_, ?_⟩, ⟨?_, ?_⟩, ⟨?_, ?_⟩, ⟨?_, ?_⟩, ?_, ?_⟩ <;>
    simp [Draft.shape, Member.optional, Member.mandatory, map_eq_ok_iff]

section Lists

variable {v : Json} (hv : v.Readable) {room : Nat} (hroom : v.depth ≤ room)
include hv hroom

theorem operands_eq_some_iff {operands : List Operand} :
    Reader.nullable (.list Operand.reader) room (.ofJson v) = .ok (some operands) ↔
      ∃ items, v = .array items ∧ List.Forall₂ (fun w o => o.IsLiteralOf w) items operands :=
  Reader.nullable_list_eq_some_iff hv hroom fun _ hw hlt _ =>
    Operand.reader_eq_ok_iff hw (Nat.le_sub_one_of_lt hlt)

theorem exists_operands_iff :
    (∃ x, Reader.nullable (.list Operand.reader) room (.ofJson v) = .ok x) ↔
      v = .null ∨ ∃ items, v = .array items := by
  rw [Reader.exists_nullable_list_iff hv hroom fun w hw hlt o =>
    Operand.reader_eq_ok_iff hw (Nat.le_sub_one_of_lt hlt)]
  refine or_congr_right (exists_congr fun items => and_iff_left_of_imp ?_)
  rintro rfl w hw
  exact Operand.exists_isLiteralOf (Json.itemsReadable_iff.1 hv w hw)

theorem children_eq_some_iff {children : List Filter} :
    Reader.nullable (.list fun _ => childReader (room + 1)) room (.ofJson v) =
        .ok (some children) ↔
      ∃ items, v = .array items ∧ List.Forall₂ (fun w f => ofJson w = .ok f) items children :=
  Reader.nullable_list_eq_some_iff hv hroom fun _ hw hlt _ => by rw [childReader_eq_ofJson hw hlt]

theorem exists_children_iff :
    (∃ x, Reader.nullable (.list fun _ => childReader (room + 1)) room (.ofJson v) = .ok x) ↔
      v = .null ∨ ∃ items, v = .array items ∧ ∀ w ∈ items, ∃ f, ofJson w = .ok f :=
  Reader.exists_nullable_list_iff hv hroom fun _ hw hlt _ => by rw [childReader_eq_ofJson hw hlt]

/-- What the member of a key is read from. -/
theorem exists_member_iff (key : String) :
    (∃ m ∈ (Draft.shape (childReader (room + 1))).members, m.key = key ∧
      ∃ set, m.read room (.ofJson v) = .ok set) ↔
      "fieldId" = key ∧ (v = .null ∨ ∃ s, v = .string s) ∨
      "operator" = key ∧ (∃ op : Operator, v = .string op.symbol) ∨
      "value" = key ∨
      "values" = key ∧ (v = .null ∨ ∃ items, v = .array items) ∨
      "children" = key ∧ (v = .null ∨
        ∃ items, v = .array items ∧ ∀ w ∈ items, ∃ f, ofJson w = .ok f) := by
  have hoperand : ∃ o : Operand, o.IsLiteralOf v := Operand.exists_isLiteralOf hv
  simp only [Draft.shape, Member.optional, Member.mandatory, List.exists_mem_cons_iff,
    List.not_mem_nil, false_and, exists_false, or_false, exists_map_eq_ok_iff,
    exists_operands_iff hv hroom, exists_children_iff hv hroom, Reader.exists_nullable_iff,
    Reader.text_eq_ok_iff, Operator.reader_eq_ok_iff, Operand.reader_eq_ok_iff hv hroom, hoperand,
    and_true]

end Lists

end Filter

end RecordQuery
