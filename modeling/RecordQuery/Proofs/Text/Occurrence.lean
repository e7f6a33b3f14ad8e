import RecordQuery.Predicate

/-!
# Texts within texts

`occursIn` tries a text at every place of another one. It finds it exactly if the characters of the
one stand next to each other in the other.
-/

namespace RecordQuery

theorem occursIn_iff {needle text : List Char} :
    occursIn needle text = true ↔ needle <:+: text := by
  induction text with
  | nil => rw [occursIn, List.isEmpty_iff, List.infix_nil]
  | cons c cs ih =>
    rw [occursIn, Bool.or_eq_true, ih, List.isPrefixOf_iff_prefix, List.infix_cons_iff]

end RecordQuery
