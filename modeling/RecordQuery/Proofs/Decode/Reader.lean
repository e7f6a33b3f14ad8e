import RecordQuery.Decode.Reader
import RecordQuery.Proofs.Json.Tree
import RecordQuery.Proofs.Outcome

/-!
# What readers take from values

* `Reader.Takes`, the value that a reader takes from a JSON value, wherever there is room for it;
* a lemma for each of the common readers, among them `Takes.list`, by which a list is read item by
  item;
* `Takes.decodeJson_eq` and `Takes.decodeText_eq`, which show that such a value is decoded, and so
  are its texts;
* `Reader.Gives`, what holds of all that a reader takes, whatever it is given.
-/

namespace RecordQuery.Reader

variable {α : Type} {r : Reader α} {v : Json} {a : α}

/-- The reader takes a value of the library from a JSON value, wherever there is room for it. -/
def Takes (r : Reader α) (v : Json) (a : α) : Prop :=
  ∀ room, v.depth ≤ room → r room (.ofJson v) = .ok a

theorem run_of_not_trailing (r : Reader α) (room : Nat) (t : Tree) :
    r.run room ⟨t, false⟩ = r room t := by
  show (r room t >>= fun a => pure a) = _
  cases r room t <;> rfl

/-- Nothing follows a value that is at hand. -/
theorem decodeJson_eq (r : Reader α) (v : Json) : r.decodeJson v = r v.depth (.ofJson v) :=
  run_of_not_trailing r v.depth (.ofJson v)

theorem Takes.decodeJson_eq (h : r.Takes v a) : r.decodeJson v = .ok a := by
  rw [Reader.decodeJson_eq]
  exact h _ (Nat.le_refl _)

/-- What is taken from a value is taken from every text of the value, if no more than 127 arrays and
objects are inside each other. -/
theorem Takes.decodeText_eq (h : r.Takes v a) {text : String}
    (htext : Document.ofText text = .ofJson v) (hdepth : v.depth ≤ nestingLimit) :
    r.decodeText text = .ok a := by
  rw [decodeText, htext, Document.ofJson, run_of_not_trailing]
  exact h nestingLimit hdepth

theorem parsed_takes {expected s : String} {read : String → Except Fault α}
    (h : read s = .ok a) : (parsed expected read).Takes (.string s) a :=
  fun _ _ => h

theorem text_takes (s : String) : text.Takes (.string s) s := fun _ _ => rfl

theorem flag_takes (b : Bool) : flag.Takes (.bool b) b := fun _ _ => rfl

theorem count_takes (n : UInt64) : count.Takes (.nat n.toNat) n := by
  intro room _
  have hlt := n.toNat_lt_size
  simp only [count, Json.nat, Json.integer, Tree.ofJson]
  rw [if_neg (by omega), if_pos (by omega), Int.toNat_natCast, UInt64.ofNat_toNat]

theorem free_takes (l : Literal) : free.Takes l.json l := by
  intro room hroom
  unfold free
  rw [Tree.literal?_ofJson l hroom]

theorem Takes.nullable (h : r.Takes v a) (hv : v ≠ .null) : (nullable r).Takes v (some a) := by
  intro room hroom
  have hread := h room hroom
  unfold Reader.nullable
  cases v with
  | null => exact absurd rfl hv
  | _ =>
    rw [Tree.ofJson] at hread ⊢
    show (r room _).map some = _
    rw [hread]
    rfl

theorem ofItems_eq_map (vs : List Json) : Tree.ofItems vs = vs.map .ofJson := by
  induction vs with
  | nil => rfl
  | cons v vs ih => rw [Tree.ofItems, List.map_cons, ih]

/-- Where there is room for a list, there is room for each of its items. -/
theorem forall₂_of_takes {vs : List Json} {as : List α} (h : List.Forall₂ r.Takes vs as) {room : Nat}
    (hroom : Json.itemsDepth vs ≤ room) :
    List.Forall₂ (fun v a => r room (.ofJson v) = .ok a) vs as := by
  induction h with
  | nil => exact .nil
  | cons hv _ ih =>
    obtain ⟨hhead, htail⟩ := Nat.max_le.1 hroom
    exact .cons (hv room hhead) (ih htail)

theorem Takes.list {vs : List Json} {as : List α} (h : List.Forall₂ r.Takes vs as) :
    (list r).Takes (.array vs) as := by
  intro room hroom
  cases room with
  | zero => exact absurd hroom (Nat.not_succ_le_zero _)
  | succ room =>
    have hitems : (vs.map Tree.ofJson).mapM (r room) = .ok as := by
      rw [Outcome.mapM_eq_ok_iff, List.forall₂_map_left_iff]
      exact forall₂_of_takes h (Nat.le_of_succ_le_succ hroom)
    show ((Tree.ofItems vs).mapM (r room) >>= fun values => _) = _
    rw [ofItems_eq_map, hitems]
    rfl

theorem variant_takes {names : List String} {ofName? : String → Option α} {name : String}
    (h : ofName? name = some a) : (variant names ofName?).Takes (.string name) a := by
  intro room _
  simp only [variant, Tree.ofJson, h]

/-! ### What holds of all that is read -/

/-- All that the reader takes has the property. -/
def Gives (r : Reader α) (p : α → Prop) : Prop :=
  ∀ room t a, r room t = .ok a → p a

variable {p : α → Prop}

theorem Gives.nullable (h : r.Gives p) : (nullable r).Gives fun a => ∀ x ∈ a, p x := by
  intro room t a hread x hx
  unfold Reader.nullable at hread
  split at hread
  · obtain rfl := Except.ok.inj hread
    cases hx
  · obtain ⟨y, hy, rfl⟩ := Outcome.map_eq_ok_iff.1 hread
    obtain rfl := Option.some.inj hx
    exact h _ _ _ hy

theorem Gives.list (h : r.Gives p) : (list r).Gives fun as => ∀ a ∈ as, p a := by
  intro room t as hread a ha
  unfold Reader.list at hread
  split at hread
  · obtain ⟨values, hvalues, hread⟩ := Outcome.bind_eq_ok_iff.1 hread
    obtain ⟨_, -, hread⟩ := Outcome.bind_eq_ok_iff.1 hread
    obtain rfl := Except.ok.inj hread
    obtain ⟨_, -, hitem⟩ := (Outcome.mem_iff_of_mapM_eq_ok hvalues).1 ha
    exact h _ _ _ hitem
  · cases hread
  · cases hread

theorem Gives.decodeJson (h : r.Gives p) (hread : r.decodeJson v = .ok a) : p a := by
  rw [Reader.decodeJson_eq] at hread
  exact h _ _ _ hread

theorem Gives.decodeText (h : r.Gives p) {text : String} (hread : r.decodeText text = .ok a) :
    p a := by
  obtain ⟨b, hb, hread⟩ := Outcome.bind_eq_ok_iff.1 hread
  split at hread
  · obtain ⟨_, hthrow, -⟩ := Outcome.bind_eq_ok_iff.1 hread
    cases hthrow
  · obtain rfl := Except.ok.inj hread
    exact h _ _ _ hb

end RecordQuery.Reader
