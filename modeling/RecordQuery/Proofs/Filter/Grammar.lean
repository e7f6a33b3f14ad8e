import RecordQuery.Proofs.Filter.Reading

/-!
# The objects that are filters

* `Filter.IsDraft`, members that are well-formed each by itself, and `Filter.IsNode`, members among
  which there are also the parts that the operator needs;
* `Filter.Carries`, the node that the members carry;
* `exists_draft_iff` and `ofMembers_of_draft`, what the reading of the members comes to;
* `Draft.OfMembers.toFilter_eq_ok_iff` and `exists_carries_iff`, what is made of them;
* `ofJson_object_iff`, which shows that the objects with distinct keys that are read are the nodes.
-/

namespace RecordQuery

open Outcome

namespace Filter

variable {members : List (String × Json)}

/-- The value of the key is there, and is not null. -/
def HasValue (members : List (String × Json)) (key : String) : Prop :=
  ∃ v, (key, v) ∈ members ∧ v ≠ .null

/-- The parts that a node of a kind needs are there. The value of a comparison may be null. -/
def HasParts (members : List (String × Json)) : OperatorKind → Prop
  | .value => HasValue members "fieldId" ∧ ∃ v, ("value", v) ∈ members
  | .membership => HasValue members "fieldId" ∧ HasValue members "values"
  | .logical => HasValue members "children"

/-- Each member is well-formed, whether the operator needs it or not, and there is an operator. -/
structure IsDraft (members : List (String × Json)) : Prop where
  keys : ∀ m ∈ members, m.1 ∈ ["fieldId", "operator", "value", "values", "children"]
  operator : ∃ op : Operator, ("operator", .string op.symbol) ∈ members
  field : ∀ v, ("fieldId", v) ∈ members → v = .null ∨ ∃ s, v = .string s
  operands : ∀ v, ("values", v) ∈ members → v = .null ∨ ∃ items, v = .array items
  children : ∀ v, ("children", v) ∈ members → v = .null ∨
    ∃ items, v = .array items ∧ ∀ w ∈ items, ∃ f, ofJson w = .ok f

/-- Each member is well-formed, and what the operator needs is there. -/
structure IsNode (members : List (String × Json)) : Prop extends IsDraft members where
  parts : ∀ op : Operator, ("operator", .string op.symbol) ∈ members → HasParts members op.kind

/-- The members carry the node: its operator is of the kind of the node, and each part of it is that
of the members. -/
def Carries (members : List (String × Json)) : Filter → Prop
  | .value field op operand => op.kind = .value ∧ ("operator", .string op.symbol) ∈ members ∧
      ("fieldId", .string field) ∈ members ∧ ∃ v, ("value", v) ∈ members ∧ operand.IsLiteralOf v
  | .membership field op operands => op.kind = .membership ∧
      ("operator", .string op.symbol) ∈ members ∧ ("fieldId", .string field) ∈ members ∧
      ∃ items, ("values", .array items) ∈ members ∧
        List.Forall₂ (fun w o => o.IsLiteralOf w) items operands
  | .logical op children => op.kind = .logical ∧ ("operator", .string op.symbol) ∈ members ∧
      ∃ items, ("children", .array items) ∈ members ∧
        List.Forall₂ (fun w f => ofJson w = .ok f) items children

/-- A node that is carried has the kind of its operator, and the parts of that kind are there. -/
theorem Carries.parts {f : Filter} (h : Carries members f) :
    ("operator", .string f.operator.symbol) ∈ members ∧ f.operator.kind = f.kind ∧
      HasParts members f.kind := by
  cases f with
  | value field op operand =>
    obtain ⟨hkind, hop, hfield, v, hv, -⟩ := h
    exact ⟨hop, hkind, ⟨_, hfield, nofun⟩, v, hv⟩
  | membership field op operands =>
    obtain ⟨hkind, hop, hfield, items, hitems, -⟩ := h
    exact ⟨hop, hkind, ⟨_, hfield, nofun⟩, _, hitems, nofun⟩
  | logical op children =>
    obtain ⟨hkind, hop, items, hitems, -⟩ := h
    exact ⟨hop, hkind, _, hitems, nofun⟩

/-! ### What is read of the members -/

/-- The parts of the node that an object is read as. -/
def draftOf (members : List (String × Json)) : Except Fault Draft :=
  (Draft.shape (childReader (Json.membersDepth members + 1))).readMembers
    (Json.membersDepth members) .closed (Tree.ofMembers members) [] {}

theorem ofJson_object (members : List (String × Json)) :
    ofJson (.object members) = draftOf members >>= Draft.toFilter := by
  rw [ofJson, Reader.decodeJson_eq, read_eq]
  rfl

/-- What is read of the parts of a node. -/
structure Draft.OfMembers (members : List (String × Json)) (d : Draft) : Prop where
  op : ∀ op : Operator, d.op = op ↔ ("operator", .string op.symbol) ∈ members
  field : ∀ field, d.field = some field ↔ ("fieldId", .string field) ∈ members
  operand : ∀ operand, d.operand = some operand ↔
    ∃ v, ("value", v) ∈ members ∧ operand.IsLiteralOf v
  operands : ∀ operands, d.operands = some operands ↔ ∃ items, ("values", .array items) ∈ members ∧
    List.Forall₂ (fun w o => o.IsLiteralOf w) items operands
  children : ∀ children, d.children = some children ↔ ∃ items,
    ("children", .array items) ∈ members ∧ List.Forall₂ (fun w f => ofJson w = .ok f) items children

/-- A node is made of what has been read if the members carry it. -/
theorem Draft.OfMembers.toFilter_eq_ok_iff {d : Draft} (h : d.OfMembers members) {f : Filter} :
    d.toFilter = .ok f ↔ Carries members f := by
  rw [Draft.toFilter_eq_ok_iff]
  cases f with
  | value field op operand =>
    constructor
    · rintro (⟨hkind, _, _, hfield, hoperand, ⟨⟩⟩ | ⟨-, _, _, -, -, ⟨⟩⟩ | ⟨-, _, -, ⟨⟩⟩)
      exact ⟨hkind, (h.op _).1 rfl, (h.field _).1 hfield, (h.operand _).1 hoperand⟩
    · rintro ⟨hkind, hop, hfield, hoperand⟩
      obtain rfl := (h.op op).2 hop
      exact .inl ⟨hkind, _, _, (h.field _).2 hfield, (h.operand _).2 hoperand, rfl⟩
  | membership field op operands =>
    constructor
    · rintro (⟨-, _, _, -, -, ⟨⟩⟩ | ⟨hkind, _, _, hfield, hoperands, ⟨⟩⟩ | ⟨-, _, -, ⟨⟩⟩)
      exact ⟨hkind, (h.op _).1 rfl, (h.field _).1 hfield, (h.operands _).1 hoperands⟩
    · rintro ⟨hkind, hop, hfield, hoperands⟩
      obtain rfl := (h.op op).2 hop
      exact .inr (.inl ⟨hkind, _, _, (h.field _).2 hfield, (h.operands _).2 hoperands, rfl⟩)
  | logical op children =>
    constructor
    · rintro (⟨-, _, _, -, -, ⟨⟩⟩ | ⟨-, _, _, -, -, ⟨⟩⟩ | ⟨hkind, _, hchildren, ⟨⟩⟩)
      exact ⟨hkind, (h.op _).1 rfl, (h.children _).1 hchildren⟩
    · rintro ⟨hkind, hop, hchildren⟩
      obtain rfl := (h.op op).2 hop
      exact .inr (.inr ⟨hkind, _, (h.children _).2 hchildren, rfl⟩)

theorem exists_mem_array_iff {key : String} {p : List Json → Prop} :
    (∃ v, (key, v) ∈ members ∧ ∃ items, v = .array items ∧ p items) ↔
      ∃ items, (key, .array items) ∈ members ∧ p items := by
  constructor
  · rintro ⟨_, hv, items, rfl, hp⟩
    exact ⟨items, hv, hp⟩
  · rintro ⟨items, hv, hp⟩
    exact ⟨_, hv, items, rfl, hp⟩

section Members

variable (hdistinct : (members.map Prod.fst).Nodup) (hreadable : ∀ m ∈ members, m.2.Readable)
include hdistinct

theorem eq_of_mem {key : String} {v w : Json} (hv : (key, v) ∈ members) (hw : (key, w) ∈ members) :
    v = w :=
  (Prod.mk.inj (List.inj_on_of_nodup_map hdistinct hv hw rfl)).2

include hreadable

/-- The members of an object are read if each of them is well-formed. -/
theorem exists_draft_iff : (∃ d, draftOf members = .ok d) ↔ IsDraft members := by
  have hmember : ∀ key v, (key, v) ∈ members → _ := fun key v hm =>
    exists_member_iff (hreadable _ hm) (Json.depth_le_membersDepth hm) key
  have hrequired : (∀ m ∈ (Draft.shape (childReader (Json.membersDepth members + 1))).members,
      m.required = true → m.key ∈ members.map Prod.fst ++ []) ↔
        "operator" ∈ members.map Prod.fst := by
    simp [Draft.shape, Member.optional, Member.mandatory]
  unfold draftOf
  rw [RecordShape.exists_readMembers_iff rfl (shape_keys_nodup _) (by rwa [List.append_nil]),
    hrequired]
  constructor
  · rintro ⟨hall, hoperator⟩
    have hread := fun key v hm => (hmember key v hm).1 (hall _ hm)
    obtain ⟨⟨_, v⟩, hv, rfl⟩ := List.mem_map.1 hoperator
    obtain ⟨op, rfl⟩ : ∃ op : Operator, v = .string op.symbol := by simpa using hread _ v hv
    refine ⟨?keys, ⟨op, hv⟩, ?field, ?operands, ?children⟩
    case keys =>
      rintro ⟨key, v⟩ hm
      rcases hread key v hm with ⟨rfl, -⟩ | ⟨rfl, -⟩ | rfl | ⟨rfl, -⟩ | ⟨rfl, -⟩ <;> simp
    case field => exact fun v hm => by simpa using hread _ v hm
    case operands => exact fun v hm => by simpa using hread _ v hm
    case children => exact fun v hm => by simpa using hread _ v hm
  · intro h
    obtain ⟨op, hop⟩ := h.operator
    refine ⟨?_, List.mem_map_of_mem hop⟩
    rintro ⟨key, v⟩ hm
    refine (hmember key v hm).2 ?_
    have hkey := h.keys _ hm
    simp only [List.mem_cons, List.not_mem_nil, or_false] at hkey
    rcases hkey with rfl | rfl | rfl | rfl | rfl
    · exact .inl ⟨rfl, h.field v hm⟩
    · exact .inr (.inl ⟨rfl, op, eq_of_mem hdistinct hm hop⟩)
    · exact .inr (.inr (.inl rfl))
    · exact .inr (.inr (.inr (.inl ⟨rfl, h.operands v hm⟩)))
    · exact .inr (.inr (.inr (.inr ⟨rfl, h.children v hm⟩)))

/-- Each part of what is read is that of the members. -/
theorem ofMembers_of_draft {d : Draft} (h : draftOf members = .ok d) : d.OfMembers members := by
  obtain ⟨op, hop⟩ := ((exists_draft_iff hdistinct hreadable).1 ⟨d, h⟩).operator
  have hroom : ∀ {key v}, (key, v) ∈ members → v.depth ≤ Json.membersDepth members :=
    Json.depth_le_membersDepth
  have hfilled : ∀ {β : Type} {key : String} {part : Draft → β} {read : Tree → Except Fault β},
      (Draft.shape (childReader (Json.membersDepth members + 1))).Fills (Json.membersDepth members)
        key part read → RecordShape.Filled read key members (part {}) (part d) := fun hfills =>
    hfills.filled rfl (shape_keys_nodup _) (by rwa [List.append_nil]) h
  obtain ⟨hfield, hoperator, hoperand, hoperands, hchildren⟩ :=
    shape_fills (childReader (Json.membersDepth members + 1)) (Json.membersDepth members)
  refine ⟨?op, fun field => ?field, fun operand => ?operand, fun operands => ?operands,
    fun children => ?children⟩
  case op =>
    have hread : ∀ op : Operator, ("operator", .string op.symbol) ∈ members → op = d.op := by
      intro op hop
      have hsymbol := Operator.reader_eq_ok_iff.1 ((hfilled hoperator).given _ hop)
      exact Operator.symbol_inj.1 (Json.string.inj hsymbol)
    obtain rfl := hread op hop
    exact fun op => ⟨fun h => h ▸ hop, fun h => (hread op h).symm⟩
  case field =>
    have htext : ∀ v, Reader.nullable .text (Json.membersDepth members) (.ofJson v) =
        .ok (some field) ↔ v = .string field := fun v =>
      (Reader.nullable_eq_some_iff nofun).trans Reader.text_eq_ok_iff
    simp only [(hfilled hfield).eq_some_iff, htext, exists_eq_right]
  case operand =>
    rw [(hfilled hoperand).eq_some_iff]
    refine exists_congr fun v => and_congr_right fun hv => ?_
    rw [← Operand.reader_eq_ok_iff (hreadable _ hv) (hroom hv), map_eq_ok_iff]
    simp
  case operands =>
    rw [(hfilled hoperands).eq_some_iff, ← exists_mem_array_iff]
    exact exists_congr fun v => and_congr_right fun hv =>
      operands_eq_some_iff (hreadable _ hv) (hroom hv)
  case children =>
    rw [(hfilled hchildren).eq_some_iff, ← exists_mem_array_iff]
    exact exists_congr fun v => and_congr_right fun hv =>
      children_eq_some_iff (hreadable _ hv) (hroom hv)

theorem ofJson_object_eq_ok_iff {f : Filter} :
    ofJson (.object members) = .ok f ↔ IsDraft members ∧ Carries members f := by
  have hdraft := exists_draft_iff hdistinct hreadable
  rw [ofJson_object, bind_eq_ok_iff, ← hdraft]
  constructor
  · rintro ⟨d, hd, hf⟩
    exact ⟨⟨d, hd⟩, (ofMembers_of_draft hdistinct hreadable hd).toFilter_eq_ok_iff.1 hf⟩
  · rintro ⟨⟨d, hd⟩, hf⟩
    exact ⟨d, hd, (ofMembers_of_draft hdistinct hreadable hd).toFilter_eq_ok_iff.2 hf⟩

/-- Of well-formed members a node is made if there is what the operator needs. -/
theorem exists_carries_iff (h : IsDraft members) : (∃ f, Carries members f) ↔ IsNode members := by
  constructor
  · rintro ⟨f, hf⟩
    refine ⟨h, fun op hop => ?_⟩
    obtain ⟨hoperator, hkind, hparts⟩ := hf.parts
    obtain rfl : f.operator = op :=
      Operator.symbol_inj.1 (Json.string.inj (eq_of_mem hdistinct hoperator hop))
    rwa [hkind]
  · intro hnode
    obtain ⟨op, hop⟩ := h.operator
    have hparts := hnode.parts op hop
    cases hkind : op.kind with
    | value =>
      rw [hkind] at hparts
      obtain ⟨⟨w, hw, hne⟩, v, hv⟩ := hparts
      obtain ⟨field, rfl⟩ := (h.field w hw).resolve_left hne
      obtain ⟨o, ho⟩ := Operand.exists_isLiteralOf (hreadable _ hv)
      exact ⟨.value field op o, hkind, hop, hw, v, hv, ho⟩
    | membership =>
      rw [hkind] at hparts
      obtain ⟨⟨w, hw, hne⟩, v, hv, hne'⟩ := hparts
      obtain ⟨field, rfl⟩ := (h.field w hw).resolve_left hne
      obtain ⟨items, rfl⟩ := (h.operands v hv).resolve_left hne'
      obtain ⟨os, hos⟩ := exists_forall₂_iff.2 fun w hw =>
        Operand.exists_isLiteralOf (Json.itemsReadable_iff.1 (hreadable _ hv) w hw)
      exact ⟨.membership field op os, hkind, hop, hw, items, hv, hos⟩
    | logical =>
      rw [hkind] at hparts
      obtain ⟨v, hv, hne⟩ := hparts
      obtain ⟨items, rfl, hall⟩ := (h.children v hv).resolve_left hne
      obtain ⟨fs, hfs⟩ := exists_forall₂_iff.2 hall
      exact ⟨.logical op fs, hkind, hop, items, hv, hfs⟩

end Members

/-- An object with distinct keys and with numbers that can be read is read as a filter if and only if
its members are those of a node, and then as the node that they carry. A text that writes the object
is read as the object is, as far as texts may be nested. -/
theorem ofJson_object_iff (hdistinct : (members.map Prod.fst).Nodup)
    (hreadable : (Json.object members).Readable) :
    ((∃ f, ofJson (.object members) = .ok f) ↔ IsNode members) ∧
    (∀ f, ofJson (.object members) = .ok f ↔ IsNode members ∧ Carries members f) ∧
    ∀ text, Document.ofText text = .ofJson (.object members) →
      (Json.object members).depth ≤ Reader.nestingLimit →
        ofText text = ofJson (.object members) := by
  have hmembers := Json.membersReadable_iff.1 hreadable
  have hread : ∀ f, ofJson (.object members) = .ok f ↔ IsNode members ∧ Carries members f := by
    intro f
    rw [ofJson_object_eq_ok_iff hdistinct hmembers]
    constructor
    · rintro ⟨hdraft, hf⟩
      exact ⟨(exists_carries_iff hdistinct hmembers hdraft).1 ⟨f, hf⟩, hf⟩
    · rintro ⟨hnode, hf⟩
      exact ⟨hnode.toIsDraft, hf⟩
  refine ⟨?_, hread, ?_⟩
  · simp only [hread, exists_and_left, and_iff_left_iff_imp]
    exact fun hnode => (exists_carries_iff hdistinct hmembers hnode.toIsDraft).2 hnode
  · intro text htext hdepth
    rw [ofText, Reader.decodeText, htext]
    exact (Reader.run_of_not_trailing _ _ _).trans (read_eq_ofJson hreadable hdepth)

/-- A comparison whose value has a repeated key, and which has members for other operators, is read
from an object and from a text. With a list of values that is none, it is refused. -/
theorem ofJson_object_of_comparison :
    let v : Json := .object [("b", .null), ("b", .bool true)]
    let members := [("value", v), ("children", .null), ("fieldId", .string "x"),
      ("operator", .string "=")]
    let text := "\x7b\"value\":\x7b\"b\":null,\"b\":true\x7d,\"children\":null," ++
      "\"fieldId\":\"x\",\"operator\":\"=\"\x7d"
    ∃ l : Literal, l.json = .object [("b", .bool true)] ∧
      ofJson (.object members) = .ok (.value "x" .eq (.literal l)) ∧
      ofText text = .ok (.value "x" .eq (.literal l)) ∧
      ¬∃ f, ofJson (.object (("values", .bool true) :: members)) = .ok f := by
  intro v members text
  have hv : v.Readable := ⟨trivial, trivial, trivial⟩
  have hmembers : (Json.object members).Readable := ⟨hv, trivial, trivial, trivial, trivial⟩
  obtain ⟨-, hread, htext⟩ := @ofJson_object_iff members (by decide) hmembers
  have hrefused := (@ofJson_object_iff (("values", .bool true) :: members) (by decide)
    ⟨trivial, hmembers⟩).1
  obtain ⟨l, hl⟩ := hv.exists_literal
  have hcarries : Carries members (.value "x" .eq (.literal l)) := by
    refine ⟨rfl, ?_, ?_, v, ?_, l, rfl, hl⟩ <;> simp [members, Operator.symbol]
  have hdraft : IsDraft members :=
    ⟨by simp [members], ⟨_, hcarries.parts.1⟩, by simp [members], by simp [members],
      by simp [members]⟩
  have hnode : IsNode members :=
    (exists_carries_iff (by decide) (Json.membersReadable_iff.1 hmembers) hdraft).1 ⟨_, hcarries⟩
  have hok := (hread _).2 ⟨hnode, hcarries⟩
  refine ⟨l, hl, hok, ?_, ?_⟩
  · rw [htext text (by simp only [text, members, v]; cbv) (by decide), hok]
  · rw [hrefused]
    intro h
    simpa using h.operands (.bool true) List.mem_cons_self

end Filter

end RecordQuery
