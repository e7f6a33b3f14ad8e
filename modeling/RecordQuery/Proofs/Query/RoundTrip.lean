import RecordQuery.Proofs.Coercion.Literal
import RecordQuery.Proofs.Compiler.Acceptance
import RecordQuery.Proofs.Query.Execution

/-!
# Queries that are written and read back

Operands lose their types when a query is written. Neither this nor the members that are left out
change what the query answers, but for timestamps in years that are written with a sign and in leap
seconds that do not end a minute.

* `Compiler.compileFilter_withLiterals`, which shows by induction on the tree that a filter is
  compiled to the same predicate when it has been read back;
* `Query.reader_takes`, which reads a query member by member;
* `Query.ofJson_toJson_of_execute`, which shows that a query that answers is read back, as one that
  answers the same where each timestamp with a type has a text that names it;
* `Query.execute_withLiterals_of_leap_within_minute`, a query whose timestamp has none.
-/

namespace RecordQuery

open Outcome

variable {R : Type}

/-- The operands of the outermost node. -/
def Filter.operands : Filter → List Operand
  | .value _ _ operand => [operand]
  | .membership _ _ operands => operands
  | .logical _ _ => []

/-- Every timestamp with a type has a text that names it. -/
def Filter.IsPlain (f : Filter) : Prop :=
  ∀ n ∈ f.nodes, ∀ o ∈ n.operands, o.IsPlain

/-! ### Compiled filters -/

namespace Compiler

variable {c : Compiler R} {p : Predicate R}

theorem compileValue_asLiteral {field : String} {op : Operator} {operand : Operand}
    (hplain : operand.IsPlain) (h : c.compileValue field op operand = .ok p) :
    c.compileValue field op operand.asLiteral = .ok p := by
  rw [compileValue_eq_ok_iff] at h ⊢
  obtain ⟨hkind, a, v, ha, happ, hv, hneeds, hp⟩ := h
  exact ⟨hkind, a, v, ha, happ, coerce_asLiteral hplain hv, hneeds, hp⟩

theorem compileMembership_asLiteral {field : String} {op : Operator} {operands : List Operand}
    (hplain : ∀ o ∈ operands, o.IsPlain) (h : c.compileMembership field op operands = .ok p) :
    c.compileMembership field op (operands.map Operand.asLiteral) = .ok p := by
  rw [compileMembership_eq_ok_iff] at h ⊢
  obtain ⟨hkind, a, ws, ha, hlen, hws, hp⟩ := h
  refine ⟨hkind, a, ws, ha, by rwa [List.length_map], ?_, hp⟩
  rw [List.mapM_map]
  exact mapM_eq_ok_of_imp hws fun o ho v hv => coerce_asLiteral (hplain o ho) hv

theorem compileAt_withLiterals {f : Filter} (hplain : f.IsPlain) {depth : Nat}
    (h : c.compileAt depth f = .ok p) : c.compileAt depth f.withLiterals = .ok p := by
  induction f generalizing depth p with
  | value field op operand =>
    have hoperand := hplain _ (Filter.mem_nodes_self _) operand (List.mem_singleton_self operand)
    rw [Filter.withLiterals, compileAt]
    exact compileValue_asLiteral hoperand h
  | membership field op operands =>
    have hoperands := hplain _ (Filter.mem_nodes_self (.membership field op operands))
    rw [Filter.withLiterals, compileAt]
    exact compileMembership_asLiteral hoperands h
  | logical op children ih =>
    rw [Filter.withLiterals, compileAt_logical_eq_ok_iff]
    obtain ⟨hkind, hdepth, hlen, ps, hps, hp⟩ := compileAt_logical_eq_ok_iff.1 h
    refine ⟨hkind, hdepth, by rwa [List.length_map], ps, ?_, hp⟩
    rw [List.mapM_map]
    refine mapM_eq_ok_of_imp hps fun f hf q hq => ih f hf ?_ hq
    exact fun n hn => hplain n (Filter.mem_nodes_logical_iff.2 (.inr ⟨f, hf, hn⟩))

/-- A filter is compiled to the same predicate when it has been read back. -/
theorem compileFilter_withLiterals {f : Filter} (hplain : f.IsPlain)
    (h : c.compileFilter f = .ok p) : c.compileFilter f.withLiterals = .ok p :=
  compileAt_withLiterals hplain h

theorem Admits.wellKinded {n : Filter} (h : c.Admits n) : n.operator.kind = n.kind := by
  cases n with
  | value => exact h.1
  | membership => exact Operator.kind_eq_membership_iff.2 h.1
  | logical => exact Operator.kind_eq_logical_iff.2 h.1

theorem wellKinded_of_compileFilter {f : Filter} (h : c.compileFilter f = .ok p) : f.WellKinded := by
  intro n hn
  obtain ⟨-, hadmits⟩ := (exists_compileAt_iff (Nat.zero_le c.limits.maxDepth)).1 ⟨p, h⟩
  exact (hadmits n hn).wellKinded

end Compiler

/-! ### The parts of a query -/

theorem Filter.read_takes {f : Filter} (h : f.WellKinded) :
    read.Takes f.toJson f.withLiterals :=
  fun _ hroom => (f.read_toJson_eq_ok_iff hroom).2 ⟨h, rfl⟩

theorem Direction.reader_takes (d : Direction) : reader.Takes d.toJson d := by
  refine Reader.variant_takes ?_
  cases d <;> rfl

theorem SortRule.reader_takes (r : SortRule) : reader.Takes r.toJson r := by
  have hfield : shape.Reads shape.start [("fieldId", .string r.field)] ⟨r.field, .asc⟩ :=
    .member rfl (Reader.text_takes r.field) rfl
  have hdirection : shape.Reads ⟨r.field, .asc⟩ [("direction", r.direction.toJson)] r :=
    .member rfl r.direction.reader_takes rfl
  exact (hfield.append hdirection).takes (by simp) rfl

theorem Page.reader_takes (p : Page) : reader.Takes p.toJson p := by
  have hskip : shape.Reads shape.start [("skip", .nat p.skip.toNat)] { skip := p.skip } :=
    .member rfl (Reader.count_takes p.skip) rfl
  have htake : shape.Reads { skip := p.skip } (Json.optional "take" (.nat ·.toNat) p.take) p :=
    .optional_self rfl p.take (fun n _ => ⟨Reader.count_takes n, nofun⟩) rfl rfl
  refine (hskip.append htake).takes ?_ rfl
  cases p.take <;> simp [Json.optional]

theorem Outputs.reader_takes (o : Outputs) : reader.Takes o.toJson o := by
  have hitems : shape.Reads shape.start [("items", .bool o.items)] { items := o.items } :=
    .member rfl (Reader.flag_takes o.items) rfl
  have htotal : shape.Reads { items := o.items } [("totalCount", .bool o.totalCount)]
      { items := o.items, totalCount := o.totalCount } :=
    .member rfl (Reader.flag_takes o.totalCount) rfl
  have hmatch : shape.Reads { items := o.items, totalCount := o.totalCount }
      [("totalMatchCount", .bool o.totalMatchCount)] o :=
    .member rfl (Reader.flag_takes o.totalMatchCount) rfl
  exact ((hitems.append htotal).append hmatch).takes (by simp) rfl

namespace Query

/-- The query with each operand as it is read back. -/
def withLiterals (q : Query) : Query :=
  { q with filter := q.filter.map Filter.withLiterals }

theorem reads_sort (filter : Option Filter) (rules : List SortRule) :
    shape.Reads { filter := filter } (sortMember rules) { filter := filter, sort := rules } := by
  unfold sortMember
  cases rules with
  | nil => exact .nil
  | cons r rs =>
    have hlist : (Reader.list SortRule.reader).Takes (.array ((r :: rs).map SortRule.toJson))
        (r :: rs) := by
      refine .list ?_
      rw [List.forall₂_map_left_iff, List.forall₂_same]
      exact fun r _ => r.reader_takes
    exact .member rfl hlist rfl

theorem nodup_keys (q : Query) :
    ((Json.optional "filter" Filter.toJson q.filter ++ sortMember q.sort ++
      Json.optional "page" Page.toJson q.page ++ [("include", q.outputs.toJson)]).map
        Prod.fst).Nodup := by
  unfold sortMember Json.optional
  cases q.filter <;> cases q.sort <;> cases q.page <;> simp

/-- A query is read member by member. A member that is left out keeps its default, which is what it
is left out for. -/
theorem reader_takes {q : Query} (h : ∀ f ∈ q.filter, f.WellKinded) :
    reader.Takes q.toJson q.withLiterals := by
  have hfilter : shape.Reads shape.start (Json.optional "filter" Filter.toJson q.filter)
      { filter := q.filter.map Filter.withLiterals } := by
    refine .optional rfl q.filter (fun f hf => ⟨Filter.read_takes (h f hf), ?_⟩) rfl rfl
    cases f <;> exact nofun
  have hsort := reads_sort (q.filter.map Filter.withLiterals) q.sort
  have hpage : shape.Reads { filter := q.filter.map Filter.withLiterals, sort := q.sort }
      (Json.optional "page" Page.toJson q.page)
      { filter := q.filter.map Filter.withLiterals, sort := q.sort, page := q.page } :=
    .optional_self rfl q.page (fun p _ => ⟨p.reader_takes, nofun⟩) rfl rfl
  have houtputs : shape.Reads
      { filter := q.filter.map Filter.withLiterals, sort := q.sort, page := q.page }
      [("include", q.outputs.toJson)] q.withLiterals :=
    .member rfl q.outputs.reader_takes rfl
  exact (((hfilter.append hsort).append hpage).append houtputs).takes q.nodup_keys rfl

/-! ### Answers -/

theorem wellKinded_of_execute {q : Query} {c : Compiler R} {records : List R}
    {result : QueryResult R} (h : q.execute c records = .ok result) :
    ∀ f ∈ q.filter, f.WellKinded := by
  intro f hf
  obtain ⟨o, ho, -⟩ := execute_eq_ok_iff.1 h
  obtain ⟨p, hp⟩ := exists_compiledFilter_eq_ok_iff.1 ⟨o, ho⟩ f hf
  exact Compiler.wellKinded_of_compileFilter hp

theorem compiledFilter_withLiterals {q : Query} {c : Compiler R} {o : Option (Predicate R)}
    (hplain : ∀ f ∈ q.filter, f.IsPlain) (h : q.compiledFilter c = .ok o) :
    q.withLiterals.compiledFilter c = .ok o := by
  unfold compiledFilter withLiterals at *
  cases hf : q.filter with
  | none =>
    rw [hf] at h
    exact h
  | some f =>
    rw [hf] at h
    obtain ⟨p, hp, ho⟩ := bind_eq_ok_iff.1 h
    exact bind_eq_ok_iff.2 ⟨p, Compiler.compileFilter_withLiterals (hplain f hf) hp, ho⟩

/-- A query that answers is read back from what is written for it, with literals for operands. It
gives the same answer if its timestamps with a type lie in the years from 0 to 9999 and in no leap
seconds but those that end a minute. -/
theorem ofJson_toJson_of_execute {q : Query} {c : Compiler R} {records : List R}
    {result : QueryResult R} (h : q.execute c records = .ok result) :
    ofJson q.toJson = .ok q.withLiterals ∧
      ((∀ f ∈ q.filter, ∀ n ∈ f.nodes, ∀ o ∈ n.operands, ∀ t, o = .typed (.timestamp t) →
          (0 ≤ t.date.year ∧ t.date.year ≤ 9999) ∧ t.LeapEndsMinute) →
        q.withLiterals.execute c records = .ok result) := by
  refine ⟨(reader_takes (wellKinded_of_execute h)).decodeJson_eq, fun hplain => ?_⟩
  rw [execute_eq_ok_iff] at h ⊢
  obtain ⟨predicate, hpredicate, rest⟩ := h
  exact ⟨predicate, compiledFilter_withLiterals hplain hpredicate, rest⟩

/-- A leap second that ends a minute is written as second 60 and read back. -/
theorem ofJson_toJson_of_leap_second :
    let leap : Instant := ⟨1483228799, 1500000000, by decide, by decide⟩
    let c : Compiler Instant := ⟨.ofList [("at", .timestamp some)], {}⟩
    let q : Query := {
      filter := some (.membership "at" .isIn [.typed .null, .typed (.timestamp leap)])
      page := some ⟨0, some 1⟩, outputs := .all }
    q.execute c [.epoch, leap] = .ok ⟨some [leap], some 2, some 1⟩ ∧
      ofJson q.toJson = .ok q.withLiterals ∧
      q.withLiterals.execute c [.epoch, leap] = .ok ⟨some [leap], some 2, some 1⟩ := by
  intro leap c q
  have hleap : (0 ≤ leap.date.year ∧ leap.date.year ≤ 9999) ∧ leap.LeapEndsMinute := by decide
  have hplain : ∀ f ∈ q.filter, ∀ n ∈ f.nodes, ∀ o ∈ n.operands, ∀ t,
      o = .typed (.timestamp t) →
        (0 ≤ t.date.year ∧ t.date.year ≤ 9999) ∧ t.LeapEndsMinute := by
    simp only [q, Option.mem_some_iff, forall_eq', Filter.nodes, List.mem_singleton, forall_eq,
      Filter.operands, List.forall_mem_cons]
    constructor
    · rintro t ⟨⟩
    · rintro t ⟨⟩
      exact hleap
  have hexec : q.execute c [.epoch, leap] = .ok ⟨some [leap], some 2, some 1⟩ := by rfl
  obtain ⟨hdecode, hsame⟩ := ofJson_toJson_of_execute hexec
  exact ⟨hexec, hdecode, hsame hplain⟩

/-- A leap second after second 4 is no instant of second 5, but a query for it asks for one when it
has been read back. -/
theorem execute_withLiterals_of_leap_within_minute :
    let within : Instant := ⟨1709283604, 1333333333, by decide, by decide⟩
    let next : Instant := ⟨1709283605, 333333333, by decide, by decide⟩
    let c : Compiler Instant := ⟨.ofList [("at", .timestamp some)], {}⟩
    let q : Query := { filter := some (.value "at" .eq (.typed (.timestamp within))) }
    q.execute c [next] = .ok ⟨some [], none, none⟩ ∧
      ofJson q.toJson = .ok q.withLiterals ∧
      q.withLiterals.execute c [next] = .ok ⟨some [next], none, none⟩ := by
  intro within next c q
  have hexec : q.execute c [next] = .ok ⟨some [], none, none⟩ := by rfl
  have hread : coerce "at" .timestamp (.literal (Value.timestamp within).literal) =
      .ok (.timestamp next) := by decide +kernel
  have hfind : c.fields.find? "at" = some (.timestamp some) := by rfl
  have hfilter : q.withLiterals.compiledFilter c =
      .ok (some (valueTest (.timestamp some) .eq (.timestamp next))) := by
    simp only [q, withLiterals, Option.map_some, Filter.withLiterals, Operand.asLiteral,
      compiledFilter, Compiler.compileFilter_eq hfind, Accessor.type, hread]
    rfl
  refine ⟨hexec, (reader_takes (wellKinded_of_execute hexec)).decodeJson_eq, ?_⟩
  exact execute_eq_ok_iff.2 ⟨_, hfilter, none, by rfl, by rfl⟩

end Query

end RecordQuery
