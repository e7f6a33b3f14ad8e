import Mathlib.Data.List.SplitBy
import RecordQuery.Proofs.Declaration.Derive
import RecordQuery.Proofs.Text.Uppercase

/-!
# The names of constants

The constant for a field is named by the parts of the field name, raised and joined by underscores.
When a record is declared, identifiers may not repeat, but the names of constants are not checked.

* `nameParts`, what underscores and capitals set apart in a name;
* `constantWords_false`, which shows by induction on the characters that the name of a constant
  joins the parts;
* `constantName_eq_iff`, which tells from the parts whether two names give the same constant;
* `Declaration.derive_constants_nodup_iff`, which declarations have no constant twice, and
  `Declaration.derive_constants_of_camelCase`, one that has.
-/

namespace RecordQuery

open Text

/-- The characters in place of which a constant has an underscore. -/
def isSeparator (c : Char) : Bool :=
  c == '_' || c == '-'

/-- The second character does not start a part: it is no capital, or follows one. -/
def staysWith (c d : Char) : Bool :=
  isCapital c || !isCapital d

/-- The parts of what stands between separators. -/
def humps (segment : List Char) : List (List Char) :=
  if segment = [] then [[]] else segment.splitBy staysWith

/-- The parts of a name. Separators that stand side by side or at an end have empty parts next to
them. -/
def nameParts (name : List Char) : List (List Char) :=
  (name.splitOnP isSeparator).flatMap humps

/-- Parts in capital letters with underscores between them. -/
def joinRaised (parts : List (List Char)) : List Char :=
  ['_'].intercalate (parts.map (List.map Char.toUpper))

/-- The two names have the same parts, letter for letter, though not in the case of the letters from
`a` to `z`. -/
def SameParts (a b : List Char) : Prop :=
  List.Forall₂ (fun v w => v.map Char.toUpper = w.map Char.toUpper) (nameParts a) (nameParts b)

theorem isCapital_of_isSeparator {c : Char} (h : isSeparator c = true) : isCapital c = false := by
  simp only [isSeparator, Bool.or_eq_true, beq_iff_eq] at h
  rcases h with rfl | rfl <;> decide

section Parts

variable {c d : Char} {cs : List Char}

/-- A character that stays with the next one is put in front of the first part. -/
theorem humps_cons_of_staysWith (h : staysWith c d = true) :
    humps (c :: d :: cs) = (humps (d :: cs)).modifyHead (c :: ·) := by
  simp only [humps, reduceCtorEq, if_false]
  have hsplit := List.splitBy_eq_iff.1 (rfl : (d :: cs).splitBy staysWith = _)
  cases hparts : (d :: cs).splitBy staysWith with
  | nil => exact absurd (List.splitBy_eq_nil.1 hparts) (List.cons_ne_nil d cs)
  | cons part parts =>
    rw [hparts] at hsplit
    obtain ⟨hflat, hne, hchain, hbreak⟩ := hsplit
    rw [List.splitBy_eq_iff, List.modifyHead_cons]
    cases part with
    | nil => exact absurd List.mem_cons_self hne
    | cons e part =>
      obtain ⟨rfl, hrest⟩ := List.cons.inj hflat
      refine ⟨?_, ?_, ?_, ?_⟩
      · rw [List.flatten_cons, List.cons_append, ← List.flatten_cons, ← hflat]
      · simpa using hne
      · rw [List.forall_mem_cons] at hchain ⊢
        exact ⟨List.isChain_cons_cons.2 ⟨h, hchain.1⟩, hchain.2⟩
      · obtain ⟨hhead, htail⟩ := List.isChain_cons.1 hbreak
        refine List.isChain_cons.2 ⟨fun q hq => ?_, htail⟩
        obtain ⟨hpart, hq, hlast⟩ := hhead q hq
        exact ⟨List.cons_ne_nil _ _, hq, by rwa [List.getLast_cons hpart]⟩

theorem humps_cons_of_not_staysWith (h : staysWith c d = false) :
    humps (c :: d :: cs) = [c] :: humps (d :: cs) := by
  simp only [humps, reduceCtorEq, if_false]
  exact List.splitBy_append_cons (l := [c]) cs (by simpa using h)

theorem nameParts_separator (h : isSeparator c = true) :
    nameParts (c :: cs) = [] :: nameParts cs := by
  rw [nameParts, List.splitOnP_cons_eq_if_modifyHead, if_pos h]
  rfl

theorem splitOnP_cons_of_not_isSeparator (hc : isSeparator c = false) {segment : List Char}
    {segments : List (List Char)} (h : cs.splitOnP isSeparator = segment :: segments) :
    (c :: cs).splitOnP isSeparator = (c :: segment) :: segments := by
  rw [List.splitOnP_cons_eq_if_modifyHead, if_neg (by simp [hc]), h, List.modifyHead_cons]

theorem nameParts_eq_append {segment : List Char} {segments : List (List Char)}
    (h : cs.splitOnP isSeparator = segment :: segments) :
    nameParts cs = humps segment ++ segments.flatMap humps := by
  rw [nameParts, h, List.flatMap_cons]

/-- Where the next character starts a part, what is no separator is a part by itself. -/
theorem nameParts_cons_of_not_staysWith (hc : isSeparator c = false) (h : staysWith c d = false) :
    nameParts (c :: d :: cs) = [c] :: nameParts (d :: cs) := by
  have hd : isSeparator d = false := by
    rw [Bool.eq_false_iff]
    intro hd
    simp [staysWith, isCapital_of_isSeparator hd] at h
  obtain ⟨w, ws, hcs⟩ := List.exists_cons_of_ne_nil (List.splitOnP_ne_nil isSeparator cs)
  have hdcs := splitOnP_cons_of_not_isSeparator hd hcs
  rw [nameParts_eq_append (splitOnP_cons_of_not_isSeparator hc hdcs), nameParts_eq_append hdcs,
    humps_cons_of_not_staysWith h, List.cons_append]

theorem exists_humps_cons (c : Char) (cs : List Char) :
    ∃ part parts, humps (c :: cs) = part :: parts := by
  refine List.exists_cons_of_ne_nil ?_
  simp [humps]

/-- What is no separator and stays with the next character is put in front of the first part. -/
theorem nameParts_cons_of_staysWith (hc : isSeparator c = false)
    (h : cs.head?.all (staysWith c) = true) :
    nameParts (c :: cs) = (nameParts cs).modifyHead (c :: ·) := by
  cases cs with
  | nil =>
    rw [nameParts_eq_append (splitOnP_cons_of_not_isSeparator hc List.splitOnP_nil)]
    rfl
  | cons d cs =>
    obtain ⟨w, ws, hcs⟩ := List.exists_cons_of_ne_nil (List.splitOnP_ne_nil isSeparator cs)
    by_cases hd : isSeparator d = true
    · have hdcs : (d :: cs).splitOnP isSeparator = [] :: cs.splitOnP isSeparator := by
        rw [List.splitOnP_cons_eq_if_modifyHead, if_pos hd]
      rw [nameParts_eq_append (splitOnP_cons_of_not_isSeparator hc hdcs), nameParts_eq_append hdcs]
      rfl
    · have hdcs := splitOnP_cons_of_not_isSeparator (Bool.eq_false_iff.2 hd) hcs
      obtain ⟨part, parts, hhumps⟩ := exists_humps_cons d w
      rw [nameParts_eq_append (splitOnP_cons_of_not_isSeparator hc hdcs), nameParts_eq_append hdcs,
        humps_cons_of_staysWith h, hhumps]
      rfl

/-- The parts of a name, one character after the other. -/
theorem nameParts_cons (c : Char) (cs : List Char) : nameParts (c :: cs) =
    if isSeparator c then [] :: nameParts cs
    else if cs.head?.all (staysWith c) then (nameParts cs).modifyHead (c :: ·)
    else [c] :: nameParts cs := by
  split
  case isTrue hc => exact nameParts_separator hc
  case isFalse hc =>
    have hc : isSeparator c = false := Bool.eq_false_iff.2 hc
    split
    case isTrue hstays => exact nameParts_cons_of_staysWith hc hstays
    case isFalse hstarts =>
      cases cs with
      | nil => exact absurd rfl hstarts
      | cons d cs => exact nameParts_cons_of_not_staysWith hc (Bool.eq_false_iff.2 hstarts)

theorem nameParts_ne_nil (cs : List Char) : nameParts cs ≠ [] := by
  induction cs with
  | nil => exact List.cons_ne_nil _ _
  | cons c cs ih =>
    rw [nameParts_cons]
    split
    · exact List.cons_ne_nil _ _
    split
    · exact mt List.modifyHead_eq_nil_iff.1 ih
    · exact List.cons_ne_nil _ _

/-- No part has a separator in it. -/
theorem not_isSeparator_of_mem {part : List Char} (hpart : part ∈ nameParts cs) (hd : d ∈ part) :
    isSeparator d = false := by
  induction cs generalizing part with
  | nil =>
    obtain rfl := List.mem_singleton.1 hpart
    cases hd
  | cons c cs ih =>
    rw [nameParts_cons] at hpart
    split at hpart
    case isTrue =>
      rcases List.mem_cons.1 hpart with rfl | hpart
      · cases hd
      · exact ih hpart hd
    case isFalse hc =>
      have hc : isSeparator c = false := Bool.eq_false_iff.2 hc
      obtain ⟨first, rest, hcs⟩ := List.exists_cons_of_ne_nil (nameParts_ne_nil cs)
      rw [hcs] at hpart ih
      split at hpart
      · rcases List.mem_cons.1 hpart with rfl | hpart
        · rcases List.mem_cons.1 hd with rfl | hd
          · exact hc
          · exact ih List.mem_cons_self hd
        · exact ih (List.mem_cons_of_mem _ hpart) hd
      · rcases List.mem_cons.1 hpart with rfl | hpart
        · rwa [List.mem_singleton.1 hd]
        · exact ih hpart hd

end Parts

section Names

variable {c d : Char} {cs : List Char} {part : List Char} {parts : List (List Char)}

theorem joinRaised_nil_cons :
    joinRaised ([] :: part :: parts) = '_' :: joinRaised (part :: parts) := by
  simp [joinRaised]

theorem joinRaised_singleton_cons :
    joinRaised ([c] :: part :: parts) = c.toUpper :: '_' :: joinRaised (part :: parts) := by
  simp [joinRaised]

theorem joinRaised_modifyHead :
    joinRaised ((part :: parts).modifyHead (c :: ·)) = c.toUpper :: joinRaised (part :: parts) := by
  cases parts <;> simp [joinRaised]

theorem constantWords_separator {small : Bool} (h : isSeparator c = true) :
    constantWords small (c :: cs) = '_' :: constantWords false cs := by
  have hcapital := isCapital_of_isSeparator h
  have hc : c = '_' ∨ c = '-' := by simpa [isSeparator] using h
  rw [constantWords, if_neg (by simp [hcapital]), if_pos hc]

/-- An underscore stands in front of a capital behind something that is none. -/
theorem constantWords_true :
    constantWords true cs =
      if cs.head?.any isCapital then '_' :: constantWords false cs else constantWords false cs := by
  cases cs with
  | nil => rfl
  | cons c cs => by_cases h : isCapital c = true <;> simp [constantWords, h]

theorem constantWords_cons (h : isSeparator c = false) :
    constantWords false (c :: cs) = c.toUpper :: constantWords (!isCapital c) cs := by
  have hc : ¬(c = '_' ∨ c = '-') := by simpa [isSeparator] using h
  rw [constantWords, if_neg Bool.false_ne_true, if_neg hc]
  by_cases hcapital : isCapital c = true
  · simp [hcapital, toUpper_of_isCapital]
  · simp [hcapital]

/-- What is no separator is raised, and set apart where the next character starts a part. -/
theorem constantWords_cons_eq (h : isSeparator c = false) :
    constantWords false (c :: cs) =
      if cs.head?.all (staysWith c) then c.toUpper :: constantWords false cs
      else c.toUpper :: '_' :: constantWords false cs := by
  rw [constantWords_cons h]
  cases hcapital : isCapital c with
  | true => cases cs.head? <;> simp [staysWith, hcapital]
  | false =>
    rw [Bool.not_false, constantWords_true]
    cases hhead : cs.head? with
    | none => simp
    | some d => cases hd : isCapital d <;> simp [staysWith, hcapital, hd]

/-- The name of a constant joins the parts of the name. -/
theorem constantWords_false (cs : List Char) :
    constantWords false cs = joinRaised (nameParts cs) := by
  induction cs with
  | nil => rfl
  | cons c cs ih =>
    obtain ⟨part, parts, hcs⟩ := List.exists_cons_of_ne_nil (nameParts_ne_nil cs)
    rw [hcs] at ih
    rw [nameParts_cons, hcs]
    split
    case isTrue hc => rw [constantWords_separator hc, ih, joinRaised_nil_cons]
    case isFalse hc =>
      rw [constantWords_cons_eq (Bool.eq_false_iff.2 hc), ih]
      split
      · rw [joinRaised_modifyHead]
      · rw [joinRaised_singleton_cons]

/-- Parts without underscores are told from what they are joined to. -/
theorem joinRaised_inj {ps qs : List (List Char)} (hps : ps ≠ []) (hqs : qs ≠ [])
    (hp : ∀ p ∈ ps, '_' ∉ p) (hq : ∀ q ∈ qs, '_' ∉ q) :
    joinRaised ps = joinRaised qs ↔
      ps.map (List.map Char.toUpper) = qs.map (List.map Char.toUpper) := by
  have hsplit : ∀ {ps : List (List Char)}, ps ≠ [] → (∀ p ∈ ps, '_' ∉ p) →
      (joinRaised ps).splitOn '_' = ps.map (List.map Char.toUpper) := by
    intro ps hne hfree
    refine List.splitOn_intercalate '_' ?_ (mt List.map_eq_nil_iff.1 hne)
    rw [List.forall_mem_map]
    intro p hp hmem
    obtain ⟨c, hc, hupper⟩ := List.mem_map.1 hmem
    exact hfree p hp (toUpper_eq_underscore_iff.1 hupper ▸ hc)
  constructor
  · intro h
    rw [← hsplit hps hp, ← hsplit hqs hq, h]
  · intro h
    rw [joinRaised, joinRaised, h]

theorem underscore_not_mem {part : List Char} (h : part ∈ nameParts cs) : '_' ∉ part := fun hmem =>
  Bool.false_ne_true (not_isSeparator_of_mem h hmem).symm

/-- Two names give the same constant if they have the same parts up to the case of letters. -/
theorem constantName_eq_iff {a b : List Char} :
    constantName a = constantName b ↔ SameParts (plainName a) (plainName b) := by
  rw [constantName, constantName, constantWords_false, constantWords_false,
    joinRaised_inj (nameParts_ne_nil _) (nameParts_ne_nil _) (fun _ => underscore_not_mem)
      fun _ => underscore_not_mem, SameParts, ← List.forall₂_eq_eq_eq, List.forall₂_map_left_iff,
    List.forall₂_map_right_iff]

/-- No character is a capital or a hyphen. -/
def IsSnakeCase (name : List Char) : Prop :=
  ∀ c ∈ name, isCapital c = false ∧ c ≠ '-'

/-- Of the first characters only those from `A` to `Z` and the hyphen cannot be among them. -/
theorem IsSnakeCase.of_all {name : List Char}
    (h : name.all (fun c => c.toNat < 0xC0 && !c.isUpper && c != '-') = true) :
    IsSnakeCase name := by
  intro c hc
  have hall := List.all_eq_true.1 h c hc
  simp only [Bool.and_eq_true, decide_eq_true_eq, Bool.not_eq_true', bne_iff_ne] at hall
  obtain ⟨⟨hlow, hupper⟩, hhyphen⟩ := hall
  exact ⟨isCapital_eq_isUpper hlow ▸ hupper, hhyphen⟩

theorem constantWords_of_isSnakeCase {small : Bool} (h : IsSnakeCase cs) :
    constantWords small cs = cs.map Char.toUpper := by
  induction cs generalizing small with
  | nil => rfl
  | cons c cs ih =>
    obtain ⟨⟨hcapital, hhyphen⟩, hcs⟩ := List.forall_mem_cons.1 h
    rw [constantWords, if_neg (by simp [hcapital]), List.map_cons]
    split
    case isTrue hc =>
      obtain rfl := hc.resolve_right hhyphen
      rw [ih hcs]
      rfl
    case isFalse => rw [ih hcs]

theorem IsSnakeCase.plainName {name : List Char} (h : IsSnakeCase name) :
    IsSnakeCase (plainName name) := by
  unfold RecordQuery.plainName
  split
  · exact fun c hc => h c (List.mem_cons_of_mem _ (List.mem_cons_of_mem _ hc))
  · exact h

theorem eq_of_map_toUpper {as bs : List Char} (ha : IsSnakeCase as) (hb : IsSnakeCase bs)
    (h : as.map Char.toUpper = bs.map Char.toUpper) : as = bs := by
  induction as generalizing bs with
  | nil => exact (List.map_eq_nil_iff.1 h.symm).symm
  | cons a as ih =>
    cases bs with
    | nil => cases h
    | cons b bs =>
      obtain ⟨hhead, htail⟩ := List.cons.inj h
      obtain ⟨⟨hacapital, -⟩, has⟩ := List.forall_mem_cons.1 ha
      obtain ⟨⟨hbcapital, -⟩, hbs⟩ := List.forall_mem_cons.1 hb
      rw [toUpper_inj hacapital hbcapital hhead, ih has hbs htail]

/-- Names without capitals that give the same constant are the same, but for the mark of a
keyword. -/
theorem plainName_eq_of_constantName {a b : List Char} (ha : IsSnakeCase a) (hb : IsSnakeCase b)
    (h : constantName a = constantName b) : plainName a = plainName b := by
  rw [constantName, constantName, constantWords_of_isSnakeCase ha.plainName,
    constantWords_of_isSnakeCase hb.plainName] at h
  exact eq_of_map_toUpper ha.plainName hb.plainName h

end Names

namespace Declaration

variable {d : Declaration} {out : Derivation}

/-- The fields that are exposed. -/
def exposedFields (d : Declaration) : List DeclaredField :=
  d.fields.filter (·.exposedType?.isSome)

theorem map_field_exposed (d : Declaration) (rule : RenameRule) :
    (d.exposed rule).map Registration.field = d.exposedFields.map DeclaredField.name := by
  unfold exposed exposedFields
  induction d.fields with
  | nil => rfl
  | cons f fs ih =>
    cases htype : f.exposedType? with
    | none =>
      have hnone : f.exposed? rule = none := by rw [DeclaredField.exposed?, htype]; rfl
      rw [List.filterMap_cons_none hnone, List.filter_cons_of_neg (by simp [htype]), ih]
    | some type =>
      rw [List.filterMap_cons_some (DeclaredField.exposed?_eq_some htype),
        List.filter_cons_of_pos (by simp [htype]), List.map_cons, List.map_cons, ih]

/-- There is a constant for each exposed field, named after the field. -/
theorem map_name_constants (h : d.derive = .ok out) :
    out.constants.map IdConstant.name =
      d.exposedFields.map fun f => String.ofList (constantName f.name.toList) := by
  obtain ⟨rule, -, -, -, -, -, rfl⟩ := derive_eq_ok_iff.1 h
  have hname : IdConstant.name ∘ Registration.constant =
      (fun name : String => String.ofList (constantName name.toList)) ∘ Registration.field := rfl
  rw [List.map_map, hname, ← List.map_map, map_field_exposed, List.map_map]
  rfl

/-- No constant is defined twice if and only if the names of no two exposed fields have the same
parts up to the case of letters. So it is where all these names are different and without
capitals. -/
theorem derive_constants_nodup_iff (h : d.derive = .ok out) :
    ((out.constants.map IdConstant.name).Nodup ↔
      d.exposedFields.Pairwise fun f g =>
        ¬SameParts (plainName f.name.toList) (plainName g.name.toList)) ∧
    ((∀ f ∈ d.exposedFields, IsSnakeCase f.name.toList) →
      (d.exposedFields.map fun f => plainName f.name.toList).Nodup →
      (out.constants.map IdConstant.name).Nodup) := by
  have hnodup : (out.constants.map IdConstant.name).Nodup ↔
      d.exposedFields.Pairwise fun f g =>
        ¬SameParts (plainName f.name.toList) (plainName g.name.toList) := by
    rw [map_name_constants h, List.Nodup, List.pairwise_map]
    simp only [ne_eq, String.ofList_inj, constantName_eq_iff]
  refine ⟨hnodup, fun hsnake hnames => hnodup.2 ?_⟩
  refine (List.pairwise_map.1 hnames).imp_of_mem fun {f g} hf hg hne hsame => ?_
  exact hne (plainName_eq_of_constantName (hsnake f hf) (hsnake g hg) (constantName_eq_iff.2 hsame))

/-- A keyword as a name and underscores on both sides of another one. A field that is left out has
the name of a constant. -/
theorem derive_constants_nodup_of_keyword :
    let d : Declaration := ⟨"Row", .named, [], [],
      [⟨"r#type", [[.path ["Text"]]]⟩, ⟨"_is_read_", [[.path ["Bool"]]]⟩,
        ⟨"TYPE", [[.path ["skip"]]]⟩]⟩
    ∃ out, d.derive = .ok out ∧
      out.constants = [⟨"TYPE", "type"⟩, ⟨"_IS_READ_", "_is_read_"⟩] ∧
      (out.constants.map IdConstant.name).Nodup := by
  intro d
  have hnames : ∀ f ∈ d.exposedFields, f.name.toList.all
      (fun c => c.toNat < 0xC0 && !c.isUpper && c != '-') = true := by decide
  refine ⟨_, rfl, rfl, (derive_constants_nodup_iff (d := d) rfl).2 ?_ ?_⟩
  · exact fun f hf => .of_all (hnames f hf)
  · show ["type".toList, "_is_read_".toList].Nodup
    simp

/-- A name in camelCase and one with underscores have the same parts. Their identifiers differ, so
the declaration is accepted. -/
theorem derive_constants_of_camelCase :
    let d : Declaration := ⟨"Row", .named, [], [],
      [⟨"readById", [[.path ["Text"]]]⟩, ⟨"read_by_id", [[.path ["Text"]]]⟩]⟩
    ∃ out, d.derive = .ok out ∧
      out.constants = [⟨"READ_BY_ID", "readById"⟩, ⟨"READ_BY_ID", "read_by_id"⟩] ∧
      ¬(out.constants.map IdConstant.name).Nodup := by
  intro d
  exact ⟨_, rfl, rfl, by decide⟩

end Declaration

end RecordQuery
