import RecordQuery.Text.Digits

/-!
# Digits that are read back

* `ofDigits_append`, the number that two texts of digits write one after the other;
* `ofDigits_decimal` and `ofDigits_decimalPadded`, which show that the digits of a number write it,
  with or without zeros in front;
* `isDigit_of_mem_decimalPadded` and `length_decimalPadded`, the form of the digits;
* `hexValue?_digitChar`, the value of a hexadecimal digit;
* `length_le_utf8Length`, the least length of a text in bytes.
-/

namespace RecordQuery.Text

theorem foldl_ofDigits (ds : List Char) (n : Nat) :
    ds.foldl (fun n c => 10 * n + (c.toNat - '0'.toNat)) n =
      n * Nat.pow 10 ds.length + ofDigits ds := by
  unfold ofDigits
  induction ds generalizing n with
  | nil => simp
  | cons d ds ih =>
    rw [List.foldl_cons, List.foldl_cons, ih, ih (10 * 0 + _), List.length_cons]
    simp only [Nat.pow_eq, Nat.pow_succ, Nat.add_mul]
    rw [Nat.mul_comm 10 n, Nat.mul_assoc, Nat.mul_comm 10 (10 ^ ds.length)]
    omega

theorem ofDigits_append (ds es : List Char) :
    ofDigits (ds ++ es) = ofDigits ds * Nat.pow 10 es.length + ofDigits es := by
  rw [ofDigits, List.foldl_append, foldl_ofDigits es]
  rfl

theorem ofDigits_cons (d : Char) (ds : List Char) :
    ofDigits (d :: ds) = (d.toNat - '0'.toNat) * Nat.pow 10 ds.length + ofDigits ds := by
  rw [show d :: ds = [d] ++ ds from rfl, ofDigits_append]
  simp [ofDigits]

theorem ofDigits_replicate_zero (n : Nat) : ofDigits (List.replicate n '0') = 0 := by
  induction n with
  | zero => rfl
  | succ n ih =>
    rw [List.replicate_succ, ofDigits_cons, ih]
    simp

theorem ofDigits_decimal (n : Nat) : ofDigits (decimal n) = n := by
  induction n using Nat.strongRecOn with
  | ind n ih =>
    unfold decimal at ih ⊢
    rw [Nat.toDigits_eq_if (by omega)]
    split
    case isTrue h =>
      simp [ofDigits, Nat.toNat_digitChar_sub_48_of_lt_ten h]
    case isFalse h =>
      have hlast := Nat.toNat_digitChar_sub_48_of_lt_ten (Nat.mod_lt n (by omega : 10 > 0))
      rw [ofDigits_append, ih (n / 10) (by omega)]
      show n / 10 * 10 + (10 * 0 + ((n % 10).digitChar.toNat - 48)) = n
      rw [hlast]
      omega

theorem ofDigits_decimalPadded (width n : Nat) : ofDigits (decimalPadded width n) = n := by
  rw [decimalPadded, ofDigits_append, ofDigits_replicate_zero, ofDigits_decimal]
  omega

theorem isDigit_of_mem_decimalPadded {width n : Nat} {c : Char} (h : c ∈ decimalPadded width n) :
    c.isDigit = true := by
  rcases List.mem_append.1 h with h | h
  · rw [List.eq_of_mem_replicate h]
    rfl
  · exact Nat.isDigit_of_mem_toDigits (by omega) (by omega) h

theorem length_decimal_le {width n : Nat} (hwidth : 0 < width) (h : n < Nat.pow 10 width) :
    (decimal n).length ≤ width :=
  (Nat.length_toDigits_le_iff (by omega) hwidth).2 h

theorem length_decimalPadded {width n : Nat} (h : (decimal n).length ≤ width) :
    (decimalPadded width n).length = width := by
  rw [decimalPadded, List.length_append, List.length_replicate]
  omega

theorem le_length_decimalPadded (width n : Nat) : width ≤ (decimalPadded width n).length := by
  rw [decimalPadded, List.length_append, List.length_replicate]
  omega

theorem hexValue?_digitChar : ∀ d < 16, hexValue? (Nat.digitChar d) = some d := by
  decide

theorem utf8Length_cons (c : Char) (cs : List Char) :
    utf8Length (c :: cs) = c.utf8Size + utf8Length cs :=
  rfl

/-- A character has at least one byte. -/
theorem length_le_utf8Length (cs : List Char) : cs.length ≤ utf8Length cs := by
  induction cs with
  | nil => exact Nat.le_refl 0
  | cons c cs ih =>
    have hsize := c.utf8Size_pos
    rw [List.length_cons, utf8Length_cons]
    omega

end RecordQuery.Text
