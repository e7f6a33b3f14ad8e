import Mathlib.Data.List.Infix
import Mathlib.Data.String.Basic
import Mathlib.Tactic.SplitIfs

/-!
# The bytes of texts

UTF-8 keeps the order of texts and tells where characters begin.

* `IsEncoding`, the bytes of one character by the size of its code point, and `isEncoding`, which
  shows that these are what is written;
* `compare_append_of_lt`, from which the order of the bytes of two texts is that of their code
  points (`compare_bytes`);
* `infix_of_append_continuation`, from which the bytes of a text occur only where its characters do
  (`bytes_infix_iff`).
-/

namespace RecordQuery.Text

/-- The bytes of a text. -/
def bytes (s : String) : List UInt8 :=
  s.toByteArray.data.toList

/-- The code points of a text. -/
def codePoints (s : String) : List Nat :=
  s.toList.map Char.toNat

/-- The bytes of characters, as numbers. -/
def octets (cs : List Char) : List Nat :=
  cs.flatMap fun c => (String.utf8EncodeChar c).map UInt8.toNat

theorem octets_cons (c : Char) (cs : List Char) :
    octets (c :: cs) = (String.utf8EncodeChar c).map UInt8.toNat ++ octets cs :=
  List.flatMap_cons

theorem map_toNat_bytes (s : String) : (bytes s).map UInt8.toNat = octets s.toList := by
  rw [bytes, octets, ← List.map_flatMap, ← String.utf8Encode_toList, List.utf8Encode,
    List.data_toByteArray]

/-! ### One character -/

/-- The numbers are the bytes of a code point. -/
inductive IsEncoding (n : Nat) : List Nat → Prop
  | one : n < 0x80 → IsEncoding n [n]
  | two : 0x80 ≤ n → n < 0x800 → IsEncoding n [0xC0 + n / 0x40, 0x80 + n % 0x40]
  | three : 0x800 ≤ n → n < 0x10000 →
      IsEncoding n [0xE0 + n / 0x1000, 0x80 + n / 0x40 % 0x40, 0x80 + n % 0x40]
  | four : 0x10000 ≤ n → n < 0x110000 →
      IsEncoding n [0xF0 + n / 0x40000, 0x80 + n / 0x1000 % 0x40, 0x80 + n / 0x40 % 0x40,
        0x80 + n % 0x40]

theorem toNat_lt (c : Char) : c.toNat < 0x110000 := by
  rcases c.valid with h | ⟨-, h⟩
  · exact Nat.lt_trans h (by decide)
  · exact h

theorem toNat_ofNat {m n : Nat} (h : m = n) (hn : n < 256) : (UInt8.ofNat m).toNat = n := by
  rw [UInt8.toNat_ofNat', h, Nat.mod_eq_of_lt hn]

/-- The bytes that are written for a character. -/
theorem isEncoding (c : Char) :
    IsEncoding c.toNat ((String.utf8EncodeChar c).map UInt8.toNat) := by
  have hmax := toNat_lt c
  have hval : c.val.toNat = c.toNat := rfl
  simp only [String.utf8EncodeChar, hval]
  generalize c.toNat = n at hmax
  split_ifs with h1 h2 h3
  · convert IsEncoding.one (n := n) (by omega) using 1
    simp only [List.map_cons, List.map_nil, List.cons.injEq, and_true]
    exact toNat_ofNat rfl (by omega)
  · convert IsEncoding.two (n := n) (by omega) (by omega) using 1
    simp only [List.map_cons, List.map_nil, List.cons.injEq, and_true]
    refine ⟨?_, ?_⟩ <;> exact toNat_ofNat (by omega) (by omega)
  · convert IsEncoding.three (n := n) (by omega) (by omega) using 1
    simp only [List.map_cons, List.map_nil, List.cons.injEq, and_true]
    refine ⟨?_, ?_, ?_⟩ <;> exact toNat_ofNat (by omega) (by omega)
  · convert IsEncoding.four (n := n) (by omega) (by omega) using 1
    simp only [List.map_cons, List.map_nil, List.cons.injEq, and_true]
    refine ⟨?_, ?_, ?_, ?_⟩ <;> exact toNat_ofNat (by omega) (by omega)

/-- A byte that continues a character. -/
def IsContinuation (b : Nat) : Prop :=
  0x80 ≤ b ∧ b < 0xC0

/-- A character is one byte that begins it and the bytes that continue it. -/
theorem IsEncoding.exists_cons {n : Nat} {bs : List Nat} (h : IsEncoding n bs) :
    ∃ b rest, bs = b :: rest ∧ ¬IsContinuation b ∧ ∀ x ∈ rest, IsContinuation x := by
  cases h <;> refine ⟨_, _, rfl, ?_, ?_⟩ <;>
    simp only [IsContinuation, List.mem_cons, List.not_mem_nil, or_false, forall_eq_or_imp,
      forall_eq, false_imp_iff, implies_true] <;> omega

/-! ### The order of texts -/

theorem compare_toNat (a b : UInt8) : compare a.toNat b.toNat = compare a b := by
  show compareOfLessAndEq _ _ = compareOfLessAndEq _ _
  simp only [compareOfLessAndEq, UInt8.toNat_inj, UInt8.lt_iff_toNat_lt]

variable {m n : Nat} {as bs : List Nat}

/-- The bytes of a smaller code point come first, whatever follows them. -/
theorem compare_append_of_lt (hm : IsEncoding m as) (hn : IsEncoding n bs) (h : m < n)
    (xs ys : List Nat) : compare (as ++ xs) (bs ++ ys) = .lt := by
  cases hm <;> cases hn <;>
    simp only [List.cons_append, List.nil_append, List.compare_cons_cons, Ordering.then_eq_lt,
      Nat.compare_eq_lt, Nat.compare_eq_eq] <;> omega

/-- Orderings are equal if they agree on what is less and on what is equal. -/
theorem ordering_ext {o o' : Ordering} (hlt : o = .lt ↔ o' = .lt) (heq : o = .eq ↔ o' = .eq) :
    o = o' := by
  cases o <;> cases o' <;> simp_all

theorem compare_map {α β : Type} [Ord α] [Ord β] {f : α → β}
    (hf : ∀ a b, compare (f a) (f b) = compare a b) :
    ∀ as bs : List α, compare (as.map f) (bs.map f) = compare as bs
  | [], [] | [], _ :: _ | _ :: _, [] => rfl
  | a :: as, b :: bs => by
    rw [List.map_cons, List.map_cons, List.compare_cons_cons, List.compare_cons_cons, hf,
      compare_map hf as bs]

theorem compare_append (xs as bs : List Nat) : compare (xs ++ as) (xs ++ bs) = compare as bs := by
  induction xs with
  | nil => rfl
  | cons x xs ih =>
    rw [List.cons_append, List.cons_append, List.compare_cons_cons, ih, Nat.compare_eq_eq.2 rfl,
      Ordering.eq_then]

/-- The bytes of characters are ordered as their code points are. -/
theorem compare_octets :
    ∀ cs ds : List Char, compare (octets cs) (octets ds) =
      compare (cs.map Char.toNat) (ds.map Char.toNat)
  | [], [] => rfl
  | [], d :: ds => by
    obtain ⟨b, rest, hb, -⟩ := (isEncoding d).exists_cons
    rw [octets_cons, hb]
    rfl
  | c :: cs, [] => by
    obtain ⟨b, rest, hb, -⟩ := (isEncoding c).exists_cons
    rw [octets_cons, hb]
    rfl
  | c :: cs, d :: ds => by
    rw [List.map_cons, List.map_cons, List.compare_cons_cons, octets_cons, octets_cons]
    rcases Nat.lt_trichotomy c.toNat d.toNat with hlt | heq | hgt
    · rw [compare_append_of_lt (isEncoding c) (isEncoding d) hlt, Nat.compare_eq_lt.2 hlt]
      rfl
    · rw [Char.toNat_inj.1 heq, compare_append, compare_octets cs ds, Nat.compare_eq_eq.2 rfl,
        Ordering.eq_then]
    · rw [Std.OrientedOrd.eq_swap,
        compare_append_of_lt (isEncoding d) (isEncoding c) hgt, Nat.compare_eq_gt.2 hgt]
      rfl

theorem compare_eq_lt_iff {α : Type} [LT α] [Ord α] [Std.LawfulLTOrd α] [Std.LawfulEqOrd α] :
    ∀ {as bs : List α}, compare as bs = .lt ↔ as < bs
  | [], [] => iff_of_false nofun (List.not_lt_nil _)
  | [], b :: bs => iff_of_true rfl (List.nil_lt_cons _ _)
  | a :: as, [] => iff_of_false nofun (List.not_lt_nil _)
  | a :: as, b :: bs => by
    rw [List.compare_cons_cons, Ordering.then_eq_lt, List.cons_lt_cons_iff,
      Std.LawfulLTCmp.eq_lt_iff_lt, Std.LawfulEqOrd.compare_eq_iff_eq, compare_eq_lt_iff]

/-- Texts are ordered as their code points are. -/
theorem compare_codePoints (s t : String) :
    compare (codePoints s) (codePoints t) = compare s t := by
  rw [codePoints, codePoints, compare_map (f := Char.toNat) fun c d => ?_]
  · refine ordering_ext ?_ ?_
    · rw [compare_eq_lt_iff, Std.LawfulLTCmp.eq_lt_iff_lt, String.lt_iff_toList_lt]
    · rw [Std.LawfulEqOrd.compare_eq_iff_eq, Std.LawfulEqOrd.compare_eq_iff_eq, String.toList_inj]
  · show compareOfLessAndEq _ _ = compareOfLessAndEq _ _
    simp only [compareOfLessAndEq, Char.toNat_inj]
    rfl

/-- Texts are ordered as their bytes are. -/
theorem compare_bytes (s t : String) : compare (bytes s) (bytes t) = compare s t := by
  rw [← compare_map compare_toNat, map_toNat_bytes, map_toNat_bytes, compare_octets]
  exact compare_codePoints s t

/-! ### Texts within texts -/

/-- A piece that begins with a byte that begins a character skips those that continue one. -/
theorem infix_of_append_continuation {b : Nat} {bs ys : List Nat} (hb : ¬IsContinuation b) :
    ∀ xs : List Nat, (∀ x ∈ xs, IsContinuation x) → b :: bs <:+: xs ++ ys → b :: bs <:+: ys
  | [], _, h => h
  | x :: xs, hxs, h => by
    rcases List.infix_cons_iff.1 h with hfront | hinner
    · obtain ⟨rfl, -⟩ := List.cons_prefix_cons.1 hfront
      exact absurd (hxs b List.mem_cons_self) hb
    · exact infix_of_append_continuation hb xs (fun y hy => hxs y (List.mem_cons_of_mem x hy))
        hinner

/-- Different characters begin differently, whatever follows them. -/
theorem eq_of_append_eq {c d : Char} {xs ys : List Nat}
    (h : (String.utf8EncodeChar c).map UInt8.toNat ++ xs =
      (String.utf8EncodeChar d).map UInt8.toNat ++ ys) : c = d := by
  rcases Nat.lt_trichotomy c.toNat d.toNat with hlt | heq | hgt
  · have := compare_append_of_lt (isEncoding c) (isEncoding d) hlt xs ys
    rw [h, Std.ReflOrd.compare_self] at this
    cases this
  · exact Char.toNat_inj.1 heq
  · have := compare_append_of_lt (isEncoding d) (isEncoding c) hgt ys xs
    rw [h, Std.ReflOrd.compare_self] at this
    cases this

theorem octets_prefix_iff : ∀ {cs ds : List Char}, octets cs <+: octets ds ↔ cs <+: ds
  | [], _ => iff_of_true List.nil_prefix List.nil_prefix
  | c :: cs, [] => by
    obtain ⟨b, rest, hb, -⟩ := (isEncoding c).exists_cons
    rw [octets_cons, hb]
    exact iff_of_false nofun nofun
  | c :: cs, d :: ds => by
    rw [octets_cons, octets_cons, List.cons_prefix_cons]
    constructor
    · rintro ⟨rest, h⟩
      rw [List.append_assoc] at h
      obtain rfl := eq_of_append_eq h
      exact ⟨rfl, octets_prefix_iff.1 ⟨rest, List.append_cancel_left h⟩⟩
    · rintro ⟨rfl, h⟩
      exact (List.prefix_append_right_inj _).2 (octets_prefix_iff.2 h)

/-- The bytes of characters occur exactly where these characters do. -/
theorem octets_infix_iff {cs : List Char} : ∀ {ds : List Char},
    octets cs <:+: octets ds ↔ cs <:+: ds
  | [] => by
    rw [show octets [] = [] from rfl, List.infix_nil, List.infix_nil]
    cases cs with
    | nil => exact iff_of_true rfl rfl
    | cons c cs =>
      obtain ⟨b, rest, hb, -⟩ := (isEncoding c).exists_cons
      rw [octets_cons, hb]
      exact iff_of_false nofun nofun
  | d :: ds => by
    rw [List.infix_cons_iff, ← octets_prefix_iff, ← octets_infix_iff]
    constructor
    · intro h
      cases cs with
      | nil => exact .inl List.nil_prefix
      | cons c cs =>
        obtain ⟨b, rest, hb, hbegin, -⟩ := (isEncoding c).exists_cons
        obtain ⟨x, xs, hx, -, hcontinue⟩ := (isEncoding d).exists_cons
        rw [octets_cons d, hx, List.cons_append] at h ⊢
        refine (List.infix_cons_iff.1 h).imp_right fun h => ?_
        rw [octets_cons, hb, List.cons_append] at h ⊢
        exact infix_of_append_continuation hbegin xs hcontinue h
    · rintro (hfront | hinner)
      · exact hfront.isInfix
      · rw [octets_cons d]
        exact hinner.trans (List.suffix_append _ _).isInfix

theorem map_infix_map_iff {α β : Type} {f : α → β} (hf : f.Injective) {as bs : List α} :
    as.map f <:+: bs.map f ↔ as <:+: bs := by
  constructor
  · intro h
    obtain ⟨l, hl, heq⟩ := List.infix_map_iff.1 h
    rwa [List.map_injective_iff.2 hf heq]
  · exact fun h => h.map f

/-- The bytes of a text occur exactly where its characters do. -/
theorem bytes_infix_iff {s t : String} : bytes s <:+: bytes t ↔ s.toList <:+: t.toList := by
  rw [← map_infix_map_iff (f := UInt8.toNat) fun _ _ => UInt8.toNat_inj.1, map_toNat_bytes,
    map_toNat_bytes, octets_infix_iff]

/-- The code points of a text occur exactly where its characters do. -/
theorem codePoints_infix_iff {s t : String} :
    codePoints s <:+: codePoints t ↔ s.toList <:+: t.toList :=
  map_infix_map_iff fun _ _ => Char.toNat_inj.1

end RecordQuery.Text
