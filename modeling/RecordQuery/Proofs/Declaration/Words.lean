import RecordQuery.Declaration.Rename

/-!
# The words of a field name

Underscores set the words of a field name apart. An identifier in camelCase or PascalCase joins the
words again, with capitals at their heads.

* `words`, what stands between underscores, and `capitalized`, a word with its first letter raised;
* `joinWords_true`, which joins the words behind the first one, however many underscores there are;
* `RenameRule.apply_eq_words`, the identifiers in camelCase and PascalCase;
* `RenameRule.apply_pascalCase_of_underscore`, a name whose first word is not raised.
-/

namespace RecordQuery

/-- The words of a name: what stands between underscores, where that is not empty. -/
def words (name : List Char) : List (List Char) :=
  (name.splitOn '_').filter (· ≠ [])

/-- A word with its first letter raised. -/
def capitalized : List Char → List Char
  | [] => []
  | c :: cs => c.toUpper :: cs

/-- Words joined with capitals at the heads of all but the first. -/
def joinedCamel : List (List Char) → List Char
  | [] => []
  | w :: ws => w ++ ws.flatMap capitalized

section Splitting

variable {c : Char} {cs : List Char}

theorem splitOn_underscore (cs : List Char) :
    ('_' :: cs).splitOn '_' = [] :: cs.splitOn '_' := by
  rw [List.splitOn_eq_splitOnP, List.splitOnP_cons_eq_if_modifyHead]
  rfl

/-- What stands in front of the first underscore, and the rest. -/
theorem exists_splitOn (cs : List Char) : ∃ w ws, cs.splitOn '_' = w :: ws :=
  List.exists_cons_of_ne_nil (List.splitOnP_ne_nil _ cs)

theorem splitOn_cons {w : List Char} {ws : List (List Char)} (hc : c ≠ '_')
    (h : cs.splitOn '_' = w :: ws) : (c :: cs).splitOn '_' = (c :: w) :: ws := by
  rw [List.splitOn_eq_splitOnP] at h ⊢
  rw [List.splitOnP_cons_eq_if_modifyHead, h, if_neg (by simpa using hc), List.modifyHead_cons]

theorem words_underscore (cs : List Char) : words ('_' :: cs) = words cs := by
  rw [words, splitOn_underscore]
  rfl

theorem words_cons {w : List Char} {ws : List (List Char)} (hc : c ≠ '_')
    (h : cs.splitOn '_' = w :: ws) : words (c :: cs) = (c :: w) :: ws.filter (· ≠ []) := by
  rw [words, splitOn_cons hc h]
  rfl

/-- Nothing is raised in an empty word. -/
theorem flatMap_capitalized_filter (ws : List (List Char)) :
    (ws.filter (· ≠ [])).flatMap capitalized = ws.flatMap capitalized := by
  induction ws with
  | nil => rfl
  | cons w ws ih =>
    cases w with
    | nil => exact ih
    | cons c w =>
      show capitalized (c :: w) ++ (ws.filter (· ≠ [])).flatMap capitalized = _
      rw [ih, List.flatMap_cons]

end Splitting

namespace RenameRule

/-- Once there has been a letter, every word behind an underscore is raised; what stands in front of
the first underscore continues a word, unless that is to be raised as well. -/
theorem joinWords_true {w : List Char} {ws : List (List Char)} (raise : Bool) {cs : List Char}
    (h : cs.splitOn '_' = w :: ws) :
    joinWords raise true cs = (if raise then capitalized w else w) ++ ws.flatMap capitalized := by
  induction cs generalizing raise w ws with
  | nil =>
    obtain ⟨rfl, rfl⟩ := List.cons.inj h
    cases raise <;> rfl
  | cons c cs ih =>
    obtain ⟨v, vs, hcs⟩ := exists_splitOn cs
    by_cases hc : c = '_'
    · subst hc
      rw [splitOn_underscore, hcs] at h
      obtain ⟨rfl, rfl⟩ := List.cons.inj h
      rw [joinWords, ih true hcs]
      cases raise <;> rfl
    · rw [splitOn_cons hc hcs] at h
      obtain ⟨rfl, rfl⟩ := List.cons.inj h
      rw [joinWords.eq_3 _ _ _ _ hc, ih false hcs]
      cases raise <;> rfl

/-- Underscores in front of the first letter are dropped. -/
theorem joinWords_false (cs : List Char) : joinWords false false cs = joinedCamel (words cs) := by
  induction cs with
  | nil => rfl
  | cons c cs ih =>
    by_cases hc : c = '_'
    · subst hc
      rw [joinWords, ih, words_underscore]
    · obtain ⟨w, ws, hcs⟩ := exists_splitOn cs
      rw [joinWords.eq_3 _ _ _ _ hc, joinWords_true false hcs, words_cons hc hcs, joinedCamel,
        flatMap_capitalized_filter]
      rfl

/-- A letter at the front of a name is raised, but an underscore makes the next letter one that is
not. -/
theorem joinWords_raise (cs : List Char) : joinWords true false cs =
    if cs.head? = some '_' then joinedCamel (words cs) else (words cs).flatMap capitalized := by
  cases cs with
  | nil => rfl
  | cons c cs =>
    by_cases hc : c = '_'
    · subst hc
      rw [joinWords, joinWords_false, words_underscore]
      rfl
    · obtain ⟨w, ws, hcs⟩ := exists_splitOn cs
      rw [joinWords.eq_3 _ _ _ _ hc, joinWords_true false hcs, words_cons hc hcs, List.flatMap_cons,
        flatMap_capitalized_filter]
      simp [hc, capitalized]

/-- An identifier in camelCase is the words of the name, each but the first with its first letter
raised. One in PascalCase has the first word raised too, but only where the name does not begin with
an underscore; otherwise it is the identifier in camelCase. -/
theorem apply_eq_words (name : List Char) :
    apply .camelCase name = joinedCamel (words (plainName name)) ∧
    ((plainName name).head? ≠ some '_' →
      apply .pascalCase name = (words (plainName name)).flatMap capitalized) ∧
    ((plainName name).head? = some '_' →
      apply .pascalCase name = joinedCamel (words (plainName name))) := by
  refine ⟨joinWords_false _, fun h => ?_, fun h => ?_⟩
  · rw [apply, joinWords_raise, if_neg h]
  · rw [apply, joinWords_raise, if_pos h]

/-- Repeated underscores and digits at the front of a word. -/
theorem apply_eq_words_of_repeated :
    apply .camelCase "r#__is__2nd_éa_".toList = "is2ndéa".toList ∧
      apply .pascalCase "is__2nd_éa_".toList = "Is2ndéa".toList ∧
      apply .pascalCase "_is_read".toList = "isRead".toList := by
  obtain ⟨hcamel, -, -⟩ := apply_eq_words "r#__is__2nd_éa_".toList
  obtain ⟨-, hpascal, -⟩ := apply_eq_words "is__2nd_éa_".toList
  obtain ⟨-, -, hunderscore⟩ := apply_eq_words "_is_read".toList
  exact ⟨hcamel.trans (by decide), (hpascal (by decide)).trans (by decide),
    (hunderscore (by decide)).trans (by decide)⟩

/-- The only word of a name that begins with an underscore is not raised in PascalCase. -/
theorem apply_pascalCase_of_underscore :
    words (plainName "_private".toList) = ["private".toList] ∧
      (words (plainName "_private".toList)).flatMap capitalized = "Private".toList ∧
      apply .pascalCase "_private".toList = "private".toList := by
  decide

end RenameRule

end RecordQuery
