import RecordQuery.Proofs.Outcome
import RecordQuery.Proofs.Text.Digits
import RecordQuery.Uuid

/-!
# Identifiers are read back

* `ofHex?_hexDigits`, which shows that the hexadecimal digits of a number write it;
* `readHyphenated?_join`, which reads five groups of digits joined by hyphens;
* `Uuid.read_render`, which reads the text of every identifier.
-/

namespace RecordQuery.Uuid

open Text

theorem length_hexDigits (width n : Nat) : (hexDigits width n).length = width := by
  induction width generalizing n with
  | zero => rfl
  | succ width ih => rw [hexDigits, List.length_append, ih, List.length_singleton]

theorem ofHex?_hexDigits {width n : Nat} (h : n < Nat.pow 16 width) :
    ofHex? (hexDigits width n) = some n := by
  induction width generalizing n with
  | zero =>
    obtain rfl : n = 0 := Nat.lt_one_iff.1 h
    rfl
  | succ width ih =>
    have hrest : n / 16 < Nat.pow 16 width :=
      Nat.div_lt_of_lt_mul (by rwa [Nat.mul_comm])
    have hlast := hexValue?_digitChar (n % 16) (Nat.mod_lt n (by omega))
    unfold ofHex? at ih ⊢
    rw [hexDigits, List.foldlM_append, ih hrest]
    simp only [List.foldlM_cons, List.foldlM_nil, hlast, Option.map_some]
    show some (16 * (n / 16) + n % 16) = some n
    rw [Nat.div_add_mod]

theorem readHyphenated?_join {a b c d e : List Char} (ha : a.length = 8) (hb : b.length = 4)
    (hc : c.length = 4) (hd : d.length = 4) :
    readHyphenated? (a ++ '-' :: b ++ '-' :: c ++ '-' :: d ++ '-' :: e) =
      readSimple? (a ++ b ++ c ++ d ++ e) := by
  unfold readHyphenated?
  simp [List.getElem?_append, List.drop_append, List.drop_eq_nil_of_le, ha, hb, hc, hd]

theorem readSimple?_hexDigits (u : Uuid) : readSimple? (hexDigits 32 u.value.toNat) = some u := by
  rw [readSimple?, if_pos (length_hexDigits ..), ofHex?_hexDigits u.value.isLt, Option.map_some,
    BitVec.ofNat_toNat, BitVec.setWidth_eq]

/-- The five groups of the text are the digits. -/
theorem readHyphenated?_render (u : Uuid) : readHyphenated? u.render = some u := by
  have hlength := length_hexDigits 32 u.value.toNat
  unfold render
  generalize hds : hexDigits 32 u.value.toNat = ds at hlength
  have hjoin : ds.take 8 ++ (ds.drop 8).take 4 ++ (ds.drop 12).take 4 ++ (ds.drop 16).take 4 ++
      ds.drop 20 = ds := by
    rw [← List.take_add, ← List.take_add, ← List.take_add, List.take_append_drop]
  show readHyphenated? (ds.take 8 ++ '-' :: (ds.drop 8).take 4 ++ '-' :: (ds.drop 12).take 4 ++
    '-' :: (ds.drop 16).take 4 ++ '-' :: ds.drop 20) = some u
  rw [readHyphenated?_join (by simp [hlength]) (by simp [hlength]) (by simp [hlength])
    (by simp [hlength]), hjoin, ← hds, readSimple?_hexDigits]

theorem length_render (u : Uuid) : u.render.length = 36 := by
  simp [render, length_hexDigits]

/-- The text of an identifier is read as that identifier. -/
theorem read_render (u : Uuid) : read u.render = .ok u := by
  have hsimple : readSimple? u.render = none := by
    rw [readSimple?, length_render, if_neg (by decide)]
  rw [read, read?, hsimple, readHyphenated?_render]
  rfl

end RecordQuery.Uuid
