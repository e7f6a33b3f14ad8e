import RecordQuery.Proofs.Decode.Record
import RecordQuery.Proofs.Filter.Nodes

/-!
# Filters that are written and read back

A node is written with its operator, and the operator alone decides as what kind of node it is read.
Operands are written without their types.

* `Filter.withLiterals`, the filter with each operand as the literal that is written for it, and
  `Filter.WellKinded`, the filters whose operators suit their nodes;
* `read_toJson_eq_ok_iff`, which shows by induction on the tree that these are the filters that are
  read back, and as what;
* `read_gives`, which shows by induction on the nesting that a filter that has been read is one of
  them and has literals for operands;
* `ofJson_toJson_iff`, which sums up both.
-/

namespace RecordQuery

open Outcome

/-- The operand as it is read back. -/
def Operand.asLiteral : Operand → Operand
  | .typed v => .literal v.literal
  | .literal l => .literal l

theorem Operand.asLiteral_eq (o : Operand) : o.asLiteral = .literal o.toLiteral := by
  cases o <;> rfl

theorem Operand.reader_takes (o : Operand) : reader.Takes o.toJson o.asLiteral := by
  intro room hroom
  rw [asLiteral_eq]
  show (Reader.free room (.ofJson o.toLiteral.json)).map literal = _
  rw [Reader.free_takes o.toLiteral room hroom]
  rfl

theorem Operator.reader_takes (op : Operator) : reader.Takes op.toJson op := by
  intro room _
  simp only [toJson, reader, Reader.parsed, Tree.ofJson, ofSymbol?_symbol]

namespace Filter

/-- The filter with each operand as it is read back. -/
def withLiterals : Filter → Filter
  | .value field op operand => .value field op operand.asLiteral
  | .membership field op operands => .membership field op (operands.map Operand.asLiteral)
  | .logical op children => .logical op (children.map withLiterals)

/-- The operator of every node is of the kind of the node. -/
def WellKinded (f : Filter) : Prop :=
  ∀ n ∈ f.nodes, n.operator.kind = n.kind

theorem wellKinded_value_iff {field : String} {op : Operator} {operand : Operand} :
    (value field op operand).WellKinded ↔ op.kind = .value := by
  simp [WellKinded, nodes, operator, kind]

theorem wellKinded_membership_iff {field : String} {op : Operator} {operands : List Operand} :
    (membership field op operands).WellKinded ↔ op.kind = .membership := by
  simp [WellKinded, nodes, operator, kind]

theorem wellKinded_logical_iff {op : Operator} {children : List Filter} :
    (logical op children).WellKinded ↔ op.kind = .logical ∧ ∀ f ∈ children, f.WellKinded := by
  unfold WellKinded
  simp only [mem_nodes_logical_iff, forall_eq_or_imp]
  refine and_congr_right fun _ => ?_
  constructor
  · intro h f hf n hn
    exact h n ⟨f, hf, hn⟩
  · rintro h n ⟨f, hf, hn⟩
    exact h f hf n hn

theorem listToJson_eq_map (fs : List Filter) : listToJson fs = fs.map toJson := by
  induction fs with
  | nil => rfl
  | cons f fs ih => rw [listToJson, List.map_cons, ih]

/-! ### Nodes -/

section Nodes

variable {child : Tree → Except Fault Filter} {field : String} {op : Operator} {g : Filter}

theorem reads_field (field : String) :
    (Draft.shape child).Reads {} [("fieldId", .string field)] { field := some field } :=
  .member rfl ((Reader.text_takes field).nullable nofun) rfl

theorem reads_operator (op : Operator) (d : Draft) :
    (Draft.shape child).Reads d [("operator", op.toJson)] { d with op := op } :=
  .member rfl op.reader_takes rfl

theorem shape_takes_value (field : String) (op : Operator) (operand : Operand) :
    (Draft.shape child).reader.Takes (value field op operand).toJson
      { field := some field, op := op, operand := some operand.asLiteral } := by
  have hvalue : (Draft.shape child).Reads { field := some field, op := op }
      [("value", operand.toJson)] { field := some field, op := op, operand := some operand.asLiteral } :=
    .member rfl operand.reader_takes rfl
  exact (((reads_field field).append (reads_operator op _)).append hvalue).takes (by simp) rfl

theorem shape_takes_membership (field : String) (op : Operator) (operands : List Operand) :
    (Draft.shape child).reader.Takes (membership field op operands).toJson
      { field := some field, op := op, operands := some (operands.map Operand.asLiteral) } := by
  have hlist : (Reader.list Operand.reader).Takes (.array (operands.map Operand.toJson))
      (operands.map Operand.asLiteral) := by
    refine .list ?_
    rw [List.forall₂_map_left_iff, List.forall₂_map_right_iff, List.forall₂_same]
    exact fun o _ => o.reader_takes
  have hvalues : (Draft.shape child).Reads { field := some field, op := op }
      [("values", .array (operands.map Operand.toJson))]
      { field := some field, op := op, operands := some (operands.map Operand.asLiteral) } :=
    .member rfl (hlist.nullable nofun) rfl
  exact (((reads_field field).append (reads_operator op _)).append hvalues).takes (by simp) rfl

theorem Draft.part_eq_ok_iff {α : Type} {d : Draft} {key : String} {a : Option α} {x : α} :
    d.part key a = .ok x ↔ a = some x := by
  cases a <;> simp [part]

/-- The node that is made of what has been read. -/
theorem Draft.toFilter_eq_ok_iff {d : Draft} :
    d.toFilter = .ok g ↔
      (d.op.kind = .value ∧ ∃ field operand, d.field = some field ∧ d.operand = some operand ∧
        g = .value field d.op operand) ∨
      (d.op.kind = .membership ∧ ∃ field operands, d.field = some field ∧
        d.operands = some operands ∧ g = .membership field d.op operands) ∨
      (d.op.kind = .logical ∧ ∃ children, d.children = some children ∧
        g = .logical d.op children) := by
  unfold toFilter
  cases d.op.kind <;>
    simp [bind_eq_ok_iff, part_eq_ok_iff, pure, Except.pure, @eq_comm _ g]

/-- The children are read one after the other. -/
theorem reader_logical (op : Operator) (children : List Filter) (room : Nat) :
    (Draft.shape child).reader (room + 2) (.ofJson (logical op children).toJson) =
      (children.map fun f => Tree.ofJson f.toJson).mapM child >>= fun fs =>
        pure { op := op, children := some fs } := by
  have hlist : Tree.ofItems (listToJson children) = children.map fun f => Tree.ofJson f.toJson := by
    rw [Reader.ofItems_eq_map, listToJson_eq_map, List.map_map]
    rfl
  have hop : Operator.reader (room + 1) (.ofJson op.toJson) = .ok op :=
    op.reader_takes _ (Nat.zero_le _)
  show (Draft.shape child).readMembers (room + 1) .closed
    [(some "operator", .ofJson op.toJson),
      (some "children", .array (Tree.ofItems (listToJson children)) .closed)] [] {} = _
  rw [RecordShape.readMembers_cons rfl (by simp), hlist]
  show (Operator.reader (room + 1) (.ofJson op.toJson)).map _ >>= _ = _
  rw [hop]
  show RecordShape.readMembers _ _ _ _ _ _ = _
  rw [RecordShape.readMembers_cons rfl (by simp)]
  show ((((children.map fun f => Tree.ofJson f.toJson).mapM child >>= fun fs => _).map some).map _)
    >>= _ = _
  cases (children.map fun f => Tree.ofJson f.toJson).mapM child <;> rfl

theorem readNode_value_eq_ok_iff {operand : Operand} {room : Nat}
    (hroom : (value field op operand).toJson.depth ≤ room) :
    readNode room child (.ofJson (value field op operand).toJson) = .ok g ↔
      op.kind = .value ∧ g = .value field op operand.asLiteral := by
  rw [readNode, shape_takes_value field op operand room hroom]
  show Draft.toFilter _ = _ ↔ _
  simp [Draft.toFilter_eq_ok_iff]

theorem readNode_membership_eq_ok_iff {operands : List Operand} {room : Nat}
    (hroom : (membership field op operands).toJson.depth ≤ room) :
    readNode room child (.ofJson (membership field op operands).toJson) = .ok g ↔
      op.kind = .membership ∧ g = .membership field op (operands.map Operand.asLiteral) := by
  rw [readNode, shape_takes_membership field op operands room hroom]
  show Draft.toFilter _ = _ ↔ _
  simp [Draft.toFilter_eq_ok_iff]

theorem readNode_logical_eq_ok_iff {children : List Filter} {room : Nat} :
    readNode (room + 2) child (.ofJson (logical op children).toJson) = .ok g ↔
      op.kind = .logical ∧
        ∃ fs, (children.map fun f => Tree.ofJson f.toJson).mapM child = .ok fs ∧
          g = .logical op fs := by
  rw [readNode, reader_logical, bind_assoc, bind_eq_ok_iff]
  simp only [pure_bind, Draft.toFilter_eq_ok_iff]
  simp [and_left_comm]

end Nodes

/-! ### Trees -/

/-- The reader of the children of a node, which are two levels below it. -/
def childReader : Nat → Tree → Except Fault Filter
  | room + 2 => read room
  | _ => fun _ => .error .malformed

/-- Every node is read the same way; the levels that are left only bound its children. -/
theorem read_eq (room : Nat) : read room = readNode room (childReader room) :=
  match room with
  | 0 => rfl
  | 1 => rfl
  | _ + 2 => rfl

/-- Written filters are read where their operators suit their nodes, and only there. -/
theorem read_toJson_eq_ok_iff (f : Filter) {room : Nat} (hroom : f.toJson.depth ≤ room)
    {g : Filter} :
    read room (.ofJson f.toJson) = .ok g ↔ f.WellKinded ∧ g = f.withLiterals := by
  induction f generalizing room g with
  | value field op operand =>
    rw [read_eq, readNode_value_eq_ok_iff hroom, wellKinded_value_iff, withLiterals]
  | membership field op operands =>
    rw [read_eq, readNode_membership_eq_ok_iff hroom, wellKinded_membership_iff, withLiterals]
  | logical op children ih =>
    -- The object takes up one level of the room and the array of the children another one.
    obtain ⟨room, rfl, hchildren⟩ : ∃ room', room = room' + 2 ∧
        Json.itemsDepth (listToJson children) ≤ room' := by
      simp only [toJson, Operator.toJson, Json.depth, Json.membersDepth] at hroom
      exact ⟨room - 2, by omega, by omega⟩
    have hchild : ∀ f ∈ children, ∀ g, read room (.ofJson f.toJson) = .ok g ↔
        f.WellKinded ∧ g = f.withLiterals := by
      intro f hf g
      refine ih f hf (Nat.le_trans (Json.depth_le_itemsDepth ?_) hchildren)
      rw [listToJson_eq_map]
      exact List.mem_map_of_mem hf
    have hfs : ∀ {fs}, (children.map fun f => Tree.ofJson f.toJson).mapM (read room) = .ok fs ↔
        (∀ f ∈ children, f.WellKinded) ∧ fs = children.map withLiterals := by
      intro fs
      rw [List.mapM_map]
      exact mapM_eq_ok_iff_of_forall hchild
    rw [read, readNode_logical_eq_ok_iff, wellKinded_logical_iff, withLiterals]
    constructor
    · rintro ⟨hop, fs, h, rfl⟩
      obtain ⟨hall, rfl⟩ := hfs.1 h
      exact ⟨⟨hop, hall⟩, rfl⟩
    · rintro ⟨⟨hop, hall⟩, rfl⟩
      exact ⟨hop, _, hfs.2 ⟨hall, rfl⟩, rfl⟩

/-! ### What has been read -/

/-- What is read back as it is: the operators suit their nodes, and the operands are literals. -/
def Rereadable (f : Filter) : Prop :=
  f.WellKinded ∧ f.withLiterals = f

theorem operand_reader_gives : Operand.reader.Gives fun o => o.asLiteral = o := by
  intro room t o hread
  obtain ⟨l, -, rfl⟩ := map_eq_ok_iff.1 hread
  rfl

/-- What the members of a node keep: operands are literals, children are rereadable. -/
structure Draft.Rereadable (d : Draft) : Prop where
  operand : ∀ o ∈ d.operand, o.asLiteral = o
  operands : ∀ os ∈ d.operands, ∀ o ∈ os, o.asLiteral = o
  children : ∀ fs ∈ d.children, ∀ f ∈ fs, f.Rereadable

theorem shape_invariant {child : Tree → Except Fault Filter}
    (hchild : ∀ t f, child t = .ok f → f.Rereadable) :
    (Draft.shape child).Invariant Draft.Rereadable := by
  have hnone : ∀ {α : Type} {p : α → Prop}, ∀ a ∈ (none : Option α), p a := by simp
  refine ⟨⟨hnone, hnone, hnone⟩, ?_⟩
  simp only [Draft.shape, List.forall_mem_cons]
  have hany : ∀ {α : Type} {r : Reader α}, r.Gives fun _ => True := fun _ _ _ _ => trivial
  refine ⟨?field, ?op, ?operand, ?operands, ?children, by simp⟩
  case field => exact hany.keeps fun _ _ _ h => ⟨h.operand, h.operands, h.children⟩
  case op => exact hany.keeps fun _ _ _ h => ⟨h.operand, h.operands, h.children⟩
  case operand =>
    refine operand_reader_gives.keeps fun _ o ho h => ⟨?_, h.operands, h.children⟩
    rintro _ ⟨⟩
    exact ho
  case operands =>
    exact operand_reader_gives.list.nullable.keeps fun _ _ hos h => ⟨h.operand, hos, h.children⟩
  case children =>
    have hgives : Reader.Gives (fun _ => child) Filter.Rereadable := fun _ => hchild
    exact hgives.list.nullable.keeps fun _ _ hfs h => ⟨h.operand, h.operands, hfs⟩

theorem Draft.Rereadable.toFilter {d : Draft} {f : Filter} (h : d.Rereadable)
    (hf : d.toFilter = .ok f) : f.Rereadable := by
  rcases Draft.toFilter_eq_ok_iff.1 hf with ⟨hkind, field, operand, -, ho, rfl⟩ |
    ⟨hkind, field, operands, -, hos, rfl⟩ | ⟨hkind, children, hfs, rfl⟩
  · refine ⟨wellKinded_value_iff.2 hkind, ?_⟩
    rw [withLiterals, h.operand operand ho]
  · refine ⟨wellKinded_membership_iff.2 hkind, ?_⟩
    rw [withLiterals, List.map_congr_left (h.operands operands hos), List.map_id']
  · refine ⟨wellKinded_logical_iff.2 ⟨hkind, fun f hf => (h.children children hfs f hf).1⟩, ?_⟩
    rw [withLiterals, List.map_congr_left fun f hf => (h.children children hfs f hf).2, List.map_id']

theorem readNode_rereadable {room : Nat} {child : Tree → Except Fault Filter}
    (hchild : ∀ t f, child t = .ok f → f.Rereadable) {t : Tree} {f : Filter}
    (hread : readNode room child t = .ok f) : f.Rereadable := by
  obtain ⟨d, hd, hf⟩ := bind_eq_ok_iff.1 hread
  exact ((shape_invariant hchild).reader_gives _ _ _ hd).toFilter hf

theorem read_rereadable (room : Nat) {t : Tree} {f : Filter} (hread : read room t = .ok f) :
    f.Rereadable := by
  match room with
  | 0 => exact readNode_rereadable (by simp) hread
  | 1 => exact readNode_rereadable (by simp) hread
  | room + 2 => exact readNode_rereadable (fun _ _ => read_rereadable room) hread

theorem read_gives : read.Gives Rereadable :=
  fun room _ _ => read_rereadable room

/-! ### Values -/

/-- A written filter is read exactly where the operator of every node is of the kind of the node,
namely with literals for operands. What has been read from a value or a text is read back as it
is. -/
theorem ofJson_toJson_iff (f : Filter) :
    (∀ g, ofJson f.toJson = .ok g ↔ f.WellKinded ∧ g = f.withLiterals) ∧
      (((∃ v, ofJson v = .ok f) ∨ ∃ text, ofText text = .ok f) → ofJson f.toJson = .ok f) := by
  have hread : ∀ g, ofJson f.toJson = .ok g ↔ f.WellKinded ∧ g = f.withLiterals := by
    intro g
    rw [ofJson, Reader.decodeJson_eq]
    exact f.read_toJson_eq_ok_iff (Nat.le_refl _)
  refine ⟨hread, fun h => ?_⟩
  have hf : f.Rereadable := by
    rcases h with ⟨v, hv⟩ | ⟨text, htext⟩
    · exact read_gives.decodeJson hv
    · exact read_gives.decodeText htext
  exact (hread f).2 ⟨hf.1, hf.2.symm⟩

/-- Operands with types are read back as literals, and a filter is not read back where one operator
does not suit its node. A filter that is read from an object whose members are in another order, one
of them null, is read back as it is. -/
theorem ofJson_toJson_of_nested :
    let status (op : Operator) : Filter := value "status" op (.typed (.text "open"))
    let typed : Filter :=
      logical .or [status .eq, membership "owner" .notIn [.typed .null, .typed (.integer 7)]]
    let mixed : Filter := logical .or [status .isIn, membership "owner" .notIn []]
    let read : Filter := logical .or [value "status" .eq (.literal ⟨.string "open", trivial⟩),
      membership "owner" .notIn [.literal ⟨.null, trivial⟩,
        .literal ⟨.number (.integer 7), rfl⟩]]
    ofJson typed.toJson = .ok read ∧ (∀ g, ofJson mixed.toJson ≠ .ok g) ∧
      ofJson read.toJson = .ok read := by
  intro status typed mixed read
  have htyped : typed.WellKinded := by
    simp [typed, status, wellKinded_logical_iff, wellKinded_value_iff, wellKinded_membership_iff,
      Operator.kind]
  have hmixed : ¬mixed.WellKinded := by
    simp [mixed, status, wellKinded_logical_iff, wellKinded_value_iff, Operator.kind]
  have hread : read = typed.withLiterals := by
    simp only [typed, status, withLiterals, List.map_cons, List.map_nil, Operand.asLiteral]
    rfl
  refine ⟨((ofJson_toJson_iff typed).1 read).2 ⟨htyped, hread⟩, fun g hg => ?_, ?_⟩
  · exact hmixed (((ofJson_toJson_iff mixed).1 g).1 hg).1
  · exact (ofJson_toJson_iff read).2 <| .inl ⟨.object [
      ("children", .array [
        .object [("value", .string "open"), ("operator", .string "="),
          ("fieldId", .string "status")],
        .object [("values", .array [.null, .number (.integer 7)]), ("fieldId", .string "owner"),
          ("operator", .string "!in"), ("children", .null)]]),
      ("operator", .string "or")], by rfl⟩

end Filter

end RecordQuery
