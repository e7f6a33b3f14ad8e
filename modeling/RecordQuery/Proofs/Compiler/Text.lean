import RecordQuery.Proofs.Compiler.Success
import RecordQuery.Proofs.Predicate.Test
import RecordQuery.Proofs.Text.Utf8

/-!
# Texts by their bytes

Texts are compared and searched character by character. As UTF-8 keeps their order and tells where
characters begin, both could as well be done byte by byte.

* `Operand.SpellsText`, the operands for a text field, and `compileFilter_contains_eq_ok_iff`, the
  searches that are compiled;
* `SearchesFor`, what a search says of each record, and `searchesFor`, which shows it;
* `order_and_search`, which sums up the order of texts, sort keys and searches.
-/

namespace RecordQuery

open Outcome Text

variable {R : Type}

/-- The operand writes a text, with a type or as a literal. -/
inductive Operand.SpellsText : Operand → String → Prop
  | typed (s : String) : SpellsText (.typed (.text s)) s
  | literal {l : Literal} {s : String} (h : l.json = .string s) : SpellsText (.literal l) s

/-- The operands that become a text are those that write it. -/
theorem coerce_text_iff {field : String} {o : Operand} {s : String} :
    coerce field .text o = .ok (.text s) ↔ o.SpellsText s := by
  refine mapError_eq_ok_iff.trans ?_
  constructor
  · intro h
    cases o with
    | typed v =>
      cases v <;> cases h
      exact .typed s
    | literal l =>
      cases hl : l.json with
      | string t =>
        simp only [hl, coerceJson, coerceText, Except.ok.injEq, Value.text.injEq] at h
        exact .literal (h ▸ hl)
      | _ => simp only [hl, coerceJson, coerceText, reduceCtorEq, Except.ok.injEq] at h
  · rintro (_ | h)
    · rfl
    · simp only [h, coerceJson, coerceText]

/-- A value of a text field that is not null is a text. -/
theorem Value.HasType.exists_text {v : Value} (h : v.HasType .text) : ∃ s, v = .text s := by
  cases v <;> cases h
  exact ⟨_, rfl⟩

/-! ### Searches -/

/-- A predicate finds the texts of a field in which another one occurs: its bytes, which is to say
its code points. The empty text occurs in every text, and nothing in null. -/
structure Predicate.SearchesFor (p : Predicate R) (a : Accessor R) (needle : String) : Prop where
  bytes_iff : ∀ r s, a.value r = .text s → (p.holds r = true ↔ bytes needle <:+: bytes s)
  codePoints_iff : ∀ r s, a.value r = .text s →
    (p.holds r = true ↔ codePoints needle <:+: codePoints s)
  empty : needle = "" → ∀ r, a.value r ≠ .null → p.holds r = true
  null : ∀ r, a.value r = .null → p.holds r = false

theorem searchesFor {a : Accessor R} (htype : a.type = .text) (needle : String) :
    (valueTest a .contains (.text needle)).SearchesFor a needle := by
  have hiff : ∀ r, (valueTest a .contains (.text needle)).holds r = true ↔
      (a.value r).Contains (.text needle) := fun r => containsText_iff
  have htext : ∀ r s, a.value r = .text s →
      ((a.value r).Contains (.text needle) ↔ needle.toList <:+: s.toList) := by
    intro r s hs
    rw [hs]
    constructor
    · rintro ⟨_, _, ⟨⟩, ⟨⟩, h⟩
      exact h
    · exact fun h => ⟨s, needle, rfl, rfl, h⟩
  refine ⟨fun r s hs => ?_, fun r s hs => ?_, fun hempty r hr => ?_, fun r hr => ?_⟩
  · rw [hiff, htext r s hs, bytes_infix_iff]
  · rw [hiff, htext r s hs, codePoints_infix_iff]
  · obtain ⟨s, hs⟩ := Value.HasType.exists_text (htype ▸ (a.value_type r).resolve_left hr)
    rw [hiff, htext r s hs, hempty]
    exact List.nil_infix
  · rw [← Bool.not_eq_true, hiff, hr]
    rintro ⟨_, _, ⟨⟩, -⟩

namespace Compiler

variable {c : Compiler R}

/-- A search is compiled for a text field and an operand that writes a text. -/
theorem compileFilter_contains_eq_ok_iff {field : String} {operand : Operand} {p : Predicate R} :
    c.compileFilter (.value field .contains operand) = .ok p ↔
      ∃ a needle, c.fields.find? field = some a ∧ a.type = .text ∧ operand.SpellsText needle ∧
        valueTest a .contains (.text needle) = p := by
  rw [compileFilter_value, compileValue_eq_ok_iff]
  constructor
  · rintro ⟨-, a, v, ha, happ, hv, hneeds, rfl⟩
    have htype : a.type = .text := happ
    rw [htype] at hv
    obtain ⟨needle, rfl⟩ := Value.HasType.exists_text
      ((coerce_fits hv).resolve_left (hneeds trivial))
    exact ⟨a, needle, ha, htype, coerce_text_iff.1 hv, rfl⟩
  · rintro ⟨a, needle, ha, htype, hoperand, rfl⟩
    refine ⟨rfl, a, .text needle, ha, htype, ?_, fun _ => nofun, rfl⟩
    rw [htype]
    exact coerce_text_iff.2 hoperand

/-- Texts are compared by their bytes, which is by their code points, and so are the records under
a sort key where they have texts. A search for a text is compiled for exactly the text fields and
the operands that write one, and looks for its bytes, which is for its code points. -/
theorem order_and_search (c : Compiler R) :
    (∀ s t : String,
      (Value.text s).compareTotal (.text t) = compare (bytes s) (bytes t) ∧
      (Value.text s).compareTotal (.text t) = compare (codePoints s) (codePoints t)) ∧
    (∀ (k : SortKey R) (r r' : R) (s t : String),
      k.accessor.value r = .text s → k.accessor.value r' = .text t →
        k.compare r r' = k.direction.apply (compare (bytes s) (bytes t)) ∧
        k.compare r r' = k.direction.apply (compare (codePoints s) (codePoints t))) ∧
    (∀ field a operand needle, c.fields.find? field = some a → a.type = .text →
      operand.SpellsText needle → ∃ p, c.compileFilter (.value field .contains operand) = .ok p) ∧
    ∀ field operand p, c.compileFilter (.value field .contains operand) = .ok p →
      ∃ a needle, c.fields.find? field = some a ∧ a.type = .text ∧ operand.SpellsText needle ∧
        p.SearchesFor a needle := by
  have hbytes : ∀ s t : String,
      (Value.text s).compareTotal (.text t) = compare (bytes s) (bytes t) :=
    fun s t => (compare_bytes s t).symm
  have hpoints : ∀ s t : String,
      (Value.text s).compareTotal (.text t) = compare (codePoints s) (codePoints t) :=
    fun s t => (compare_codePoints s t).symm
  refine ⟨fun s t => ⟨hbytes s t, hpoints s t⟩, ?_, ?_, ?_⟩
  · intro k r r' s t hs ht
    rw [SortKey.compare, hs, ht]
    exact ⟨congrArg _ (hbytes s t), congrArg _ (hpoints s t)⟩
  · intro field a operand needle ha htype hoperand
    exact ⟨_, compileFilter_contains_eq_ok_iff.2 ⟨a, needle, ha, htype, hoperand, rfl⟩⟩
  · intro field operand p h
    obtain ⟨a, needle, ha, htype, hoperand, rfl⟩ := compileFilter_contains_eq_ok_iff.1 h
    exact ⟨a, needle, ha, htype, hoperand, searchesFor htype needle⟩

/-- A character beyond the first `0x10000` comes after all those within, by its bytes and by its
code point, and an accent is found by the two bytes of its letter. -/
theorem order_and_search_of_accent :
    let c : Compiler (Option String) := ⟨.ofList [("title", .text id)], {}⟩
    (Value.text "ﬁn").compareTotal (.text "😀") = .lt ∧
    ∃ p, c.compileFilter (.value "title" .contains (.typed (.text "é"))) = .ok p ∧
      p.holds (some "cafés") = true ∧ p.holds (some "cafes") = false ∧
      p.holds none = false := by
  intro c
  obtain ⟨horder, -, hcompiled, hsearch⟩ := order_and_search c
  obtain ⟨p, hp⟩ := hcompiled "title" (.text id) (.typed (.text "é")) "é" rfl rfl (.typed _)
  obtain ⟨a, needle, ha, -, hspells, h⟩ := hsearch _ _ p hp
  cases ha
  cases hspells
  refine ⟨?_, p, hp, ?_, ?_, h.null none rfl⟩
  · rw [(horder _ _).1]
    decide +kernel
  · rw [h.bytes_iff _ _ rfl]
    decide +kernel
  · rw [← Bool.not_eq_true, h.bytes_iff _ _ rfl]
    decide +kernel

end Compiler

end RecordQuery
