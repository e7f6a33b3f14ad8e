import Mathlib.Data.List.TakeWhile
import RecordQuery.Filter.Wire
import RecordQuery.Proofs.Binary64.Nearest
import RecordQuery.Proofs.Decode.Reader

/-!
# Integers in texts

An integer is written by its digits and an optional sign. What is read from them depends on where
they stand: in a string they are rounded once, in a JSON text they stay an integer if 64 bits hold
it.

* `Text.IsDigits` and `Text.WritesInteger`, the texts that write an integer;
* `Binary64.read?_of_writesInteger`, which shows that a string of them is the nearest number;
* `Numeral.Represents`, what a JSON text of them becomes;
* `Operand.decodeText_eq_ok_iff` and `Operand.represents_of_decodeText`, which show that an operand
  is read in this way.
-/

namespace RecordQuery

open Outcome

namespace Text

/-- Decimal digits, at least one. -/
structure IsDigits (ds : List Char) : Prop where
  ne_nil : ds ≠ []
  isDigit : ∀ c ∈ ds, c.isDigit = true

/-- An optional sign and decimal digits, which write an integer. -/
inductive WritesInteger : List Char → Int → Prop
  | unsigned {ds : List Char} (h : IsDigits ds) : WritesInteger ds (ofDigits ds)
  | plus {ds : List Char} (h : IsDigits ds) : WritesInteger ('+' :: ds) (ofDigits ds)
  | minus {ds : List Char} (h : IsDigits ds) : WritesInteger ('-' :: ds) (-(ofDigits ds : Int))

theorem IsDigits.of_all {ds : List Char} (hne : ds ≠ []) (h : ds.all Char.isDigit = true) :
    IsDigits ds :=
  ⟨hne, List.all_eq_true.1 h⟩

theorem not_isDigits_cons {c : Char} {cs : List Char} (hc : c.isDigit = false) :
    ¬IsDigits (c :: cs) := by
  intro h
  have hdigit := h.isDigit c List.mem_cons_self
  rw [hc] at hdigit
  cases hdigit

namespace IsDigits

variable {ds : List Char} (h : IsDigits ds)
include h

theorem takeWhile_eq : ds.takeWhile Char.isDigit = ds :=
  List.takeWhile_eq_self_iff.2 h.isDigit

theorem dropWhile_eq : ds.dropWhile Char.isDigit = [] :=
  List.dropWhile_eq_nil_iff.2 h.isDigit

theorem isEmpty_eq : ds.isEmpty = false :=
  List.isEmpty_eq_false_iff.2 h.ne_nil

theorem exists_cons : ∃ d rest, ds = d :: rest ∧ d.isDigit = true := by
  obtain ⟨d, rest, rfl⟩ := List.exists_cons_of_ne_nil h.ne_nil
  exact ⟨d, rest, rfl, h.isDigit d List.mem_cons_self⟩

end IsDigits

end Text

open Text

namespace Binary64

theorem readUnsigned?_of_isDigits {ds : List Char} (h : IsDigits ds) :
    readUnsigned? ds = some (ofNat (ofDigits ds)) := by
  simp only [readUnsigned?, h.takeWhile_eq, h.dropWhile_eq, h.isEmpty_eq, List.append_nil]
  exact congrArg some (ofDecimal_zero _)

/-- A string of digits is rounded to the number nearest to the integer that it writes. -/
theorem read?_of_writesInteger {cs : List Char} {n : Int} (h : WritesInteger cs n) :
    ∃ negative, n = signed negative n.natAbs ∧
      read? cs = some (ofMagnitude negative (ofNat n.natAbs)) := by
  cases h with
  | @unsigned ds hds =>
    refine ⟨false, rfl, ?_⟩
    unfold read?
    split
    · exact absurd hds (not_isDigits_cons rfl)
    · exact absurd hds (not_isDigits_cons rfl)
    · rw [readUnsigned?_of_isDigits hds]
      rfl
  | plus hds => exact ⟨false, rfl, by rw [read?, readUnsigned?_of_isDigits hds]; rfl⟩
  | minus hds =>
    rw [Int.natAbs_neg]
    exact ⟨true, rfl, by rw [read?, readUnsigned?_of_isDigits hds]; rfl⟩

end Binary64

namespace Numeral

/-- What a JSON text that writes an integer becomes: the integer if 64 bits hold it, but `-0` a
negative zero, and otherwise some binary64 number. -/
inductive Represents (n : Int) : Numeral → Prop
  | integer (h : fitsInteger n = true) : Represents n (.integer n)
  | negativeZero (h : n = 0) : Represents n (.float (.ofMagnitude true 0))
  | float (h : fitsInteger n = false) (x : Binary64) : Represents n (.float x)

theorem gatherWhole_cons (n : Nat) (d : Char) (ds : List Char) :
    gatherWhole n (d :: ds) =
      match appendDigit? n d with
      | some n' => gatherWhole n' ds
      | none => ⟨n, (d :: ds).length⟩ := by
  rfl

/-- Digits are gathered as long as the number that they write stays below `2 ^ 64`. -/
theorem gatherWhole_eq {n : Nat} {ds : List Char}
    (h : n * Nat.pow 10 ds.length + ofDigits ds < UInt64.size) :
    gatherWhole n ds = ⟨n * Nat.pow 10 ds.length + ofDigits ds, 0⟩ := by
  rw [← foldl_ofDigits] at h ⊢
  induction ds generalizing n with
  | nil => rfl
  | cons d ds ih =>
    rw [List.foldl_cons] at h ⊢
    have hd : 10 * n + (d.toNat - '0'.toNat) < UInt64.size := by
      refine Nat.lt_of_le_of_lt ?_ h
      rw [foldl_ofDigits]
      exact Nat.le_trans (Nat.le_mul_of_pos_right _ (Nat.pow_pos (by decide)))
        (Nat.le_add_right _ _)
    have happend : appendDigit? n d = some (10 * n + (d.toNat - '0'.toNat)) := if_pos hd
    rw [gatherWhole_cons, happend]
    exact ih h

theorem ofParts?_whole (negative : Bool) (ds : List Char) :
    ofParts? negative ds none none =
      let n := signed negative (ofDigits ds)
      let g := gatherWhole 0 ds
      if fitsInteger n && !(negative && n == 0) then some (.integer n)
      else (Gathered.magnitude? ⟨g.significand, g.exponent + 0⟩).map fun m =>
        .float (.ofMagnitude negative m) := by
  rfl

/-- The digits of zero keep the sign that stands in front of them. -/
theorem ofParts?_zero {ds : List Char} (h : ofDigits ds = 0) :
    ofParts? true ds none none = some (.float (.ofMagnitude true 0)) := by
  have hgather : gatherWhole 0 ds = ⟨0, 0⟩ := by
    rw [gatherWhole_eq] <;> simp [h, UInt64.size]
  rw [ofParts?_whole, hgather, h]
  rfl

theorem ofParts?_represents {negative : Bool} {ds : List Char} {m : Numeral}
    (h : ofParts? negative ds none none = some m) :
    Represents (signed negative (ofDigits ds)) m := by
  by_cases hzero : negative = true ∧ ofDigits ds = 0
  · obtain ⟨rfl, hds⟩ := hzero
    rw [ofParts?_zero hds] at h
    obtain rfl := Option.some.inj h
    exact .negativeZero (by simp [signed, hds])
  rw [ofParts?_whole] at h
  dsimp only at h
  split at h
  case isTrue hfits =>
    obtain rfl := Option.some.inj h
    rw [Bool.and_eq_true] at hfits
    exact .integer hfits.1
  case isFalse hfits =>
    obtain ⟨x, -, rfl⟩ := Option.map_eq_some_iff.1 h
    have hsigned : (negative && signed negative (ofDigits ds) == 0) = false := by
      cases negative <;> simp_all [signed]
    rw [hsigned, Bool.not_false, Bool.and_true, Bool.not_eq_true] at hfits
    exact .float hfits _

theorem scanWhole?_of_isDigits {ds : List Char} (h : IsDigits ds) {r : List Char × List Char}
    (hr : scanWhole? ds = some r) : r = (ds, []) := by
  have hspan : spanDigits? ds = some (ds, []) := by
    simp only [spanDigits?, h.takeWhile_eq, h.dropWhile_eq, h.isEmpty_eq]
    rfl
  unfold scanWhole? at hr
  rw [hspan] at hr
  simp only [Option.bind_eq_bind, Option.bind_some] at hr
  split at hr
  · cases hr
  · exact (Option.some.inj hr).symm

/-- A JSON text of digits holds nothing but a number, which is absent only if it is too large. -/
theorem represents_of_scan? {cs : List Char} {n : Int} (h : WritesInteger cs n)
    {m : Option Numeral} {rest : List Char} (hscan : scan? cs = some (m, rest)) :
    rest = [] ∧ ∀ k, m = some k → Represents n k := by
  have hparts : ∀ (negative : Bool) (ds : List Char), IsDigits ds →
      (scanWhole? ds).bind (fun w => (scanFraction? w.2).bind fun f => (scanExponent? f.2).bind
        fun e => some (ofParts? negative w.1 f.1 e.1, e.2)) = some (m, rest) →
      rest = [] ∧ ∀ k, m = some k → Represents (signed negative (ofDigits ds)) k := by
    intro negative ds hds hbind
    obtain ⟨w, hw, hbind⟩ := Option.bind_eq_some_iff.1 hbind
    obtain rfl := scanWhole?_of_isDigits hds hw
    cases hbind
    exact ⟨rfl, fun k hk => ofParts?_represents hk⟩
  cases h with
  | @unsigned ds hds =>
    unfold scan? at hscan
    split at hscan
    case h_1 negative cs' hsign =>
      split at hsign
      · exact absurd hds (not_isDigits_cons rfl)
      · cases hsign
        exact hparts false _ hds hscan
  | plus hds => cases hscan
  | minus hds => exact hparts true _ hds hscan

end Numeral

/-- A text that writes an integer starts a number, if any token. -/
theorem Token.scan?_of_writesInteger {cs : List Char} {n : Int} (h : WritesInteger cs n) :
    ∃ c rest, cs = c :: rest ∧ isBlank c = false ∧
      scan? c rest = (Numeral.scan? cs).map fun (n, rest) => (.number n, rest) := by
  cases h with
  | @unsigned ds hds =>
    obtain ⟨d, rest, rfl, hd⟩ := hds.exists_cons
    refine ⟨d, rest, rfl, ?_, ?_⟩
    · rw [Bool.eq_false_iff]
      intro hblank
      simp only [isBlank, Bool.or_eq_true, beq_iff_eq] at hblank
      rcases hblank with ((rfl | rfl) | rfl) | rfl <;> cases hd
    · unfold scan?
      split
      case h_11 => rfl
      all_goals cases hd
  | @plus ds hds => exact ⟨_, _, rfl, rfl, rfl⟩
  | @minus ds hds => exact ⟨_, _, rfl, rfl, rfl⟩

theorem Token.ofText_of_writesInteger {text : String} {n : Int}
    (h : WritesInteger text.toList n) :
    ofText text = ((Numeral.scan? text.toList).map fun r => [.number r.1]).getD [.fault] := by
  obtain ⟨c, rest, hcons, hblank, hscan⟩ := scan?_of_writesInteger h
  rw [ofText, hcons, List.length_cons, ofChars, hblank, if_neg Bool.false_ne_true, hscan, ← hcons]
  cases hnumber : Numeral.scan? text.toList with
  | none => rfl
  | some r =>
    obtain ⟨m, rest'⟩ := r
    obtain ⟨rfl, -⟩ := Numeral.represents_of_scan? h hnumber
    cases rest <;> rfl

namespace Operand

theorem reader_number {room : Nat} {k : Numeral} {o : Operand} :
    reader room (.number k) = .ok o ↔ ∃ hk, o = .literal ⟨.number k, hk⟩ := by
  constructor
  · intro h
    obtain ⟨l, hl, rfl⟩ := map_eq_ok_iff.1 h
    unfold Reader.free at hl
    split at hl
    case h_1 l' hliteral =>
      obtain rfl := Except.ok.inj hl
      have hjson := Tree.literal?_eq_some_iff.1 hliteral
      rw [Tree.json?, Option.ite_none_right_eq_some] at hjson
      obtain ⟨hk, hjson⟩ := hjson
      obtain ⟨json, hcanonical⟩ := l'
      obtain rfl := Option.some.inj hjson
      exact ⟨hk, rfl⟩
    case h_2 => cases hl
  · rintro ⟨hk, rfl⟩
    exact map_eq_ok_iff.2 ⟨_, Reader.free_takes ⟨.number k, hk⟩ room (Nat.zero_le _), rfl⟩

/-- A JSON text that writes an integer is read as the number that is scanned. -/
theorem decodeText_eq_ok_iff {text : String} {n : Int} {o : Operand}
    (h : WritesInteger text.toList n) :
    Reader.decodeText reader text = .ok o ↔
      ∃ k hk, Numeral.scan? text.toList = some (some k, []) ∧ o = .literal ⟨.number k, hk⟩ := by
  have htokens := Token.ofText_of_writesInteger h
  rw [Reader.decodeText, Document.ofText]
  cases hscan : Numeral.scan? text.toList with
  | none =>
    rw [htokens, hscan]
    refine iff_of_false ?_ (by simp)
    rintro ⟨⟩
  | some r =>
    obtain ⟨m, rest⟩ := r
    obtain ⟨rfl, -⟩ := Numeral.represents_of_scan? h hscan
    rw [htokens, hscan]
    cases m with
    | none =>
      refine iff_of_false ?_ (by simp)
      rintro ⟨⟩
    | some k =>
      have hrun := Reader.run_of_not_trailing reader Reader.nestingLimit (.number k)
      refine (iff_of_eq (congrArg (· = Except.ok o) hrun)).trans (reader_number.trans ?_)
      simp

theorem represents_of_decodeText {text : String} {n : Int} {o : Operand}
    (h : WritesInteger text.toList n) (hread : Reader.decodeText reader text = .ok o) :
    ∃ k hk, o = .literal ⟨.number k, hk⟩ ∧ k.Represents n := by
  obtain ⟨k, hk, hscan, ho⟩ := (decodeText_eq_ok_iff h).1 hread
  exact ⟨k, hk, ho, (Numeral.represents_of_scan? h hscan).2 k rfl⟩

end Operand

end RecordQuery
