import RecordQuery.Json.Tree
import RecordQuery.Proofs.Json.Normal

/-!
# Values are read back

* `depth_le_itemsDepth` and `depth_le_membersDepth`, the nesting of the parts of a value;
* `Tree.json?_ofJson`, which shows by induction on the value that the tree of a readable value is
  read as that value with its keys sorted;
* `Tree.literal?_eq_some_iff` and `Tree.literal?_ofJson`, the same for literals.
-/

namespace RecordQuery

namespace Json

theorem depth_le_itemsDepth {v : Json} {vs : List Json} (h : v ∈ vs) : v.depth ≤ itemsDepth vs := by
  induction vs with
  | nil => exact absurd h List.not_mem_nil
  | cons w vs ih =>
    rw [itemsDepth]
    rcases List.mem_cons.1 h with rfl | h
    · exact Nat.le_max_left ..
    · exact Nat.le_trans (ih h) (Nat.le_max_right ..)

theorem depth_le_membersDepth {m : String × Json} {ms : List (String × Json)} (h : m ∈ ms) :
    m.2.depth ≤ membersDepth ms := by
  induction ms with
  | nil => exact absurd h List.not_mem_nil
  | cons m' ms ih =>
    rw [membersDepth]
    rcases List.mem_cons.1 h with rfl | h
    · exact Nat.le_max_left ..
    · exact Nat.le_trans (ih h) (Nat.le_max_right ..)

end Json

namespace Tree

mutual

theorem json?_ofJson {room : Nat} {v : Json} (hreadable : v.Readable) (hroom : v.depth ≤ room) :
    json? room (ofJson v) = some v.normal := by
  match v, room with
  | .null, _ => rfl
  | .bool _, _ => rfl
  | .string _, _ => rfl
  | .number n, _ =>
    have hn : n.isCanonical = true := hreadable
    rw [ofJson, json?, if_pos hn]
    rfl
  | .array items, 0 => exact absurd hroom (Nat.not_succ_le_zero _)
  | .array items, room + 1 =>
    have hitems := itemsJson?_ofItems hreadable (Nat.le_of_succ_le_succ hroom)
    rw [ofJson, json?, hitems]
    rfl
  | .object members, 0 => exact absurd hroom (Nat.not_succ_le_zero _)
  | .object members, room + 1 =>
    have hmembers := membersJson?_ofMembers hreadable (Nat.le_of_succ_le_succ hroom) []
    rw [ofJson, json?, hmembers]
    rfl

theorem itemsJson?_ofItems {room : Nat} {vs : List Json} (hreadable : Json.ItemsReadable vs)
    (hroom : Json.itemsDepth vs ≤ room) :
    itemsJson? room (ofItems vs) = some (Json.itemsNormal vs) := by
  match vs with
  | [] => rfl
  | v :: vs =>
    obtain ⟨hv, hvs⟩ := Nat.max_le.1 hroom
    rw [ofItems, itemsJson?, json?_ofJson hreadable.1 hv, itemsJson?_ofItems hreadable.2 hvs]
    rfl

theorem membersJson?_ofMembers {room : Nat} {ms : List (String × Json)}
    (hreadable : Json.MembersReadable ms) (hroom : Json.membersDepth ms ≤ room)
    (entries : List (String × Json)) :
    membersJson? room (ofMembers ms) entries = some (Json.membersNormal ms entries) := by
  match ms with
  | [] => rfl
  | (k, v) :: ms =>
    obtain ⟨hv, hms⟩ := Nat.max_le.1 hroom
    rw [ofMembers, membersJson?, json?_ofJson hreadable.1 hv]
    exact membersJson?_ofMembers hreadable.2 hms _

end

theorem literal?_eq_some_iff {room : Nat} {t : Tree} {l : Literal} :
    literal? room t = some l ↔ json? room t = some l.json := by
  obtain ⟨json, hcanonical⟩ := l
  unfold literal?
  split
  case h_1 v hv => simp only [hv, Option.some.injEq, Literal.mk.injEq]
  case h_2 hnone => simp only [hnone, reduceCtorEq]

theorem literal?_ofJson_eq_some_iff {room : Nat} {v : Json} (hreadable : v.Readable)
    (hroom : v.depth ≤ room) {l : Literal} :
    (ofJson v).literal? room = some l ↔ l.json = v.normal := by
  rw [literal?_eq_some_iff, json?_ofJson hreadable hroom, Option.some.injEq, eq_comm]

theorem literal?_ofJson (l : Literal) {room : Nat} (hroom : l.json.depth ≤ room) :
    (ofJson l.json).literal? room = some l :=
  (literal?_ofJson_eq_some_iff l.canonical.readable hroom).2 l.canonical.normal_eq.symm

end Tree

/-- A readable value can be had as a literal. -/
theorem Json.Readable.exists_literal {v : Json} (h : v.Readable) :
    ∃ l : Literal, l.json = v.normal :=
  ⟨⟨v.normal, Tree.json?_canonical (Tree.json?_ofJson h (Nat.le_refl _))⟩, rfl⟩

end RecordQuery
