import RecordQuery.Json.Render
import RecordQuery.Json.Tree
import RecordQuery.Proofs.Text.Digits

/-!
# Texts of values are read back

The text that is written for a value without numbers is read as that value.

* `Token.scan?_quote`, which reads a string whatever its characters are;
* `Json.WithoutNumbers`, the values in question: the texts of numbers are not always exact;
* `Reading.Leads`, what some characters do to the state of the reading, and `leads_render`, which
  shows by induction on a value what its text does;
* `Document.ofText_toText`, for whole texts.
-/

namespace RecordQuery

namespace Token

/-! ### Strings -/

/-- The piece that a character is read as: itself, or the number by which a control character may be
written. -/
inductive Piece.StandsFor (c : Char) : Piece → Prop
  | char : StandsFor c (.char c)
  | unit (h : c.toNat < 0x20) : StandsFor c (.unit c.toNat)

theorem joinPieces?_cons {p : Piece} {c : Char} (h : p.StandsFor c) (ps : List Piece) :
    joinPieces? (p :: ps) = (joinPieces? ps).map (c :: ·) := by
  cases h with
  | char => rfl
  | unit h =>
    have hhigh : ¬(0xD800 ≤ c.toNat ∧ c.toNat ≤ 0xDBFF) := by omega
    have hlow : ¬(0xDC00 ≤ c.toNat ∧ c.toNat ≤ 0xDFFF) := by omega
    conv => lhs; unfold joinPieces?
    simp only [if_neg hhigh, if_neg hlow, Char.ofNat_toNat]

theorem hexUnit?_digits {n : Nat} (h : n < 256) :
    hexUnit? '0' '0' (Nat.digitChar (n / 16)) (Nat.digitChar (n % 16)) = some n := by
  have hzero : Text.hexValue? '0' = some 0 := rfl
  have hhigh := Text.hexValue?_digitChar (n / 16) (by omega)
  have hlow := Text.hexValue?_digitChar (n % 16) (by omega)
  simp only [hexUnit?, hzero, hhigh, hlow, Option.bind_eq_bind, Option.bind_some, Option.pure_def,
    Option.some.injEq]
  omega

theorem scanPieces?_plain {c : Char} (hquote : c ≠ '"') (hslash : c ≠ '\\')
    (hcontrol : ¬c.toNat < 0x20) (cs : List Char) :
    scanPieces? (c :: cs) = (scanPieces? cs).map fun (ps, rest) => (.char c :: ps, rest) := by
  rw [scanPieces?.eq_def]
  split
  case h_1 heq => exact absurd (List.cons.inj heq).1 hquote
  case h_2 heq => exact absurd (List.cons.inj heq).1 hslash
  case h_3 heq => exact absurd (List.cons.inj heq).1 hslash
  case h_4 heq =>
    obtain ⟨rfl, rfl⟩ := List.cons.inj heq
    rw [if_neg (not_or.2 ⟨hcontrol, hslash⟩)]
    cases scanPieces? cs <;> rfl
  case h_5 heq => cases heq

theorem scanPieces?_simple {e c : Char} (h : simpleEscape? e = some c) (cs : List Char) :
    scanPieces? ('\\' :: e :: cs) =
      (scanPieces? cs).map fun (ps, rest) => (.char c :: ps, rest) := by
  rw [scanPieces?.eq_def]
  split
  case h_1 heq => cases heq
  case h_2 heq =>
    cases heq
    cases h
  case h_3 heq =>
    cases heq
    rw [h]
    cases scanPieces? cs <;> rfl
  case h_4 hne heq =>
    cases heq
    exact (hne e cs rfl rfl).elim
  case h_5 heq => cases heq

theorem scanPieces?_unit {a b c d : Char} {n : Nat} (h : hexUnit? a b c d = some n)
    (cs : List Char) :
    scanPieces? ('\\' :: 'u' :: a :: b :: c :: d :: cs) =
      (scanPieces? cs).map fun (ps, rest) => (.unit n :: ps, rest) := by
  rw [scanPieces?, h]
  cases scanPieces? cs <;> rfl

/-- A character is read from what stands for it between quotes. -/
theorem exists_scanPieces?_escape (c : Char) : ∃ p : Piece, p.StandsFor c ∧
    ∀ cs, scanPieces? (Json.escape c ++ cs) =
      (scanPieces? cs).map fun (ps, rest) => (p :: ps, rest) := by
  unfold Json.escape
  split
  case h_8 hquote hslash _ _ _ _ _ =>
    split
    case isTrue h =>
      exact ⟨.unit c.toNat, .unit h, scanPieces?_unit (hexUnit?_digits (by omega))⟩
    case isFalse h =>
      exact ⟨.char c, .char, scanPieces?_plain hquote hslash h⟩
  all_goals exact ⟨.char _, .char, scanPieces?_simple rfl⟩

/-- A string is read from its text in quotes. -/
theorem exists_scanPieces?_quote (cs : List Char) : ∃ ps, joinPieces? ps = some cs ∧
    ∀ rest, scanPieces? (cs.flatMap Json.escape ++ '"' :: rest) = some (ps, rest) := by
  induction cs with
  | nil => exact ⟨[], rfl, fun rest => by rw [List.flatMap_nil, List.nil_append, scanPieces?]⟩
  | cons c cs ih =>
    obtain ⟨p, hp, hchar⟩ := exists_scanPieces?_escape c
    obtain ⟨ps, hps, hrest⟩ := ih
    refine ⟨p :: ps, by rw [joinPieces?_cons hp, hps]; rfl, fun rest => ?_⟩
    rw [List.flatMap_cons, List.append_assoc, hchar, hrest]
    rfl

theorem scan?_quote (s : String) (rest : List Char) :
    scan? '"' (s.toList.flatMap Json.escape ++ '"' :: rest) = some (.string (some s), rest) := by
  obtain ⟨ps, hps, hscan⟩ := exists_scanPieces?_quote s.toList
  simp only [scan?, hscan, Option.map_some, hps, String.ofList_toList]

end Token

/-! ### Values -/

namespace Json

mutual

/-- There is no number in the value. -/
def WithoutNumbers : Json → Prop
  | .number _ => False
  | .array items => ItemsWithoutNumbers items
  | .object members => MembersWithoutNumbers members
  | _ => True

/-- There is no number in the items. -/
def ItemsWithoutNumbers : List Json → Prop
  | [] => True
  | v :: vs => v.WithoutNumbers ∧ ItemsWithoutNumbers vs

/-- There is no number in the members. -/
def MembersWithoutNumbers : List (String × Json) → Prop
  | [] => True
  | (_, v) :: ms => v.WithoutNumbers ∧ MembersWithoutNumbers ms

end

theorem joinComma_cons_cons (text text' : List Char) (texts : List (List Char)) :
    joinComma (text :: text' :: texts) = text ++ ',' :: joinComma (text' :: texts) := by
  rw [joinComma, List.intercalate_cons_cons, List.append_assoc]
  rfl

theorem joinComma_singleton (text : List Char) : joinComma [text] = text :=
  List.intercalate_singleton

end Json

namespace Tree

/-- Some characters lead from one state of the reading to another one, where the rest is still to be
read. There is always enough fuel for it. -/
def Reading.Leads (s : Reading) (cs : List Char) (s' : Reading) (rest : List Char) : Prop :=
  ∀ fuel, cs.length ≤ fuel → ∃ fuel', rest.length ≤ fuel' ∧
    (Token.ofChars fuel cs).foldl step s = (Token.ofChars fuel' rest).foldl step s'

namespace Reading

theorem Leads.trans {s s' s'' : Reading} {cs cs' cs'' : List Char} (h : s.Leads cs s' cs')
    (h' : s'.Leads cs' s'' cs'') : s.Leads cs s'' cs'' := by
  intro fuel hfuel
  obtain ⟨fuel', hfuel', heq⟩ := h fuel hfuel
  obtain ⟨fuel'', hfuel'', heq'⟩ := h' fuel' hfuel'
  exact ⟨fuel'', hfuel'', heq.trans heq'⟩

/-- One token is one step. -/
theorem leads_token {c : Char} {cs rest : List Char} {t : Token} (hc : Token.isBlank c = false)
    (hscan : Token.scan? c cs = some (t, rest)) (hlength : rest.length ≤ cs.length) (s : Reading) :
    s.Leads (c :: cs) (s.step t) rest := by
  intro fuel hfuel
  cases fuel with
  | zero => exact absurd hfuel (Nat.not_succ_le_zero _)
  | succ fuel =>
    refine ⟨fuel, Nat.le_trans hlength (Nat.le_of_succ_le_succ hfuel), ?_⟩
    rw [Token.ofChars, hc, if_neg Bool.false_ne_true, hscan]
    rfl

/-- A token of one character. -/
theorem leads_mark (c : Char) (t : Token) (s : Reading) (rest : List Char)
    (hc : Token.isBlank c = false := by rfl)
    (hscan : Token.scan? c rest = some (t, rest) := by rfl) :
    s.Leads (c :: rest) (s.step t) rest :=
  leads_token hc hscan (Nat.le_refl _) s

theorem leads_quote (k : String) (s : Reading) (rest : List Char) :
    s.Leads (Json.quote k ++ rest) (s.step (.string (some k))) rest := by
  have hscan := Token.scan?_quote k rest
  rw [Json.quote, List.cons_append, List.append_assoc]
  refine leads_token rfl hscan ?_ s
  rw [List.length_append, List.length_cons]
  omega

end Reading

open Reading

/-- A member is read if its value is. -/
theorem leads_member {v : Json}
    (hv : ∀ frames first rest,
      (Reading.value frames first).Leads (v.render ++ rest) (place (ofJson v) frames) rest)
    (k : String) (before : List (Option String × Tree)) (frames : List Frame) (first : Bool)
    (rest : List Char) :
    (Reading.key (.object before :: frames) first).Leads (Json.quote k ++ ':' :: v.render ++ rest)
      (.after (.object ((some k, ofJson v) :: before) :: frames)) rest := by
  have hkey := leads_quote k (.key (.object before :: frames) first) (':' :: (v.render ++ rest))
  have hcolon := leads_mark ':' .colon (.colon (.member before (some k) :: frames))
    (v.render ++ rest)
  rw [List.append_assoc, List.cons_append]
  exact (hkey.trans hcolon).trans (hv (.member before (some k) :: frames) false rest)

mutual

/-- The text of a value leads to the tree of the value, put where it belongs. -/
theorem leads_render {v : Json} (h : v.WithoutNumbers) (frames : List Frame) (first : Bool)
    (rest : List Char) :
    (Reading.value frames first).Leads (v.render ++ rest) (place (ofJson v) frames) rest := by
  match v with
  | .null => exact leads_token (c := 'n') (t := .null) rfl rfl (Nat.le_add_right _ 3) _
  | .bool true => exact leads_token (c := 't') (t := .bool true) rfl rfl (Nat.le_add_right _ 3) _
  | .bool false => exact leads_token (c := 'f') (t := .bool false) rfl rfl (Nat.le_add_right _ 4) _
  | .string s => exact leads_quote s _ rest
  | .array items =>
    have hopen := leads_mark '[' .openArray (.value frames first)
      (Json.joinComma (Json.renderItems items) ++ ']' :: rest)
    rw [Json.render, List.cons_append, List.append_assoc]
    exact hopen.trans (leads_renderItems h frames true [] rest (fun _ => rfl))
  | .object members =>
    have hopen := leads_mark '{' .openObject (.value frames first)
      (Json.joinComma (Json.renderMembers members) ++ '}' :: rest)
    rw [Json.render, List.cons_append, List.append_assoc]
    exact hopen.trans (leads_renderMembers h frames true [] rest (fun _ => rfl))

/-- The texts of items lead to the array that holds them after those before them. Without items it
closes only right after its bracket. -/
theorem leads_renderItems {items : List Json} (h : Json.ItemsWithoutNumbers items)
    (frames : List Frame) (first : Bool) (before : List Tree) (rest : List Char)
    (hfirst : items = [] → first = true) :
    (Reading.value (.array before :: frames) first).Leads
      (Json.joinComma (Json.renderItems items) ++ ']' :: rest)
      (place (.array (before.reverse ++ ofItems items) .closed) frames) rest := by
  match items with
  | [] =>
    obtain rfl := hfirst rfl
    rw [ofItems, List.append_nil]
    exact leads_mark ']' .closeArray (.value (.array before :: frames) true) rest
  | [v] =>
    have hvalue := leads_render h.1 (.array before :: frames) first (']' :: rest)
    have hclose := leads_mark ']' .closeArray (.after (.array (ofJson v :: before) :: frames)) rest
    rw [Reading.step, List.reverse_cons] at hclose
    rw [Json.renderItems, Json.renderItems, Json.joinComma_singleton]
    exact hvalue.trans hclose
  | v :: w :: ws =>
    have hvalue := leads_render h.1 (.array before :: frames) first
      (',' :: (Json.joinComma (Json.renderItems (w :: ws)) ++ ']' :: rest))
    have hcomma := leads_mark ',' .comma (.after (.array (ofJson v :: before) :: frames))
      (Json.joinComma (Json.renderItems (w :: ws)) ++ ']' :: rest)
    have hitems := leads_renderItems h.2 frames false (ofJson v :: before) rest nofun
    rw [List.reverse_cons, List.append_assoc] at hitems
    rw [Json.renderItems, Json.renderItems, Json.joinComma_cons_cons, List.append_assoc]
    exact (hvalue.trans hcomma).trans hitems

/-- The texts of members lead to the object that holds them after those before them. Without members
it closes only right after its brace. -/
theorem leads_renderMembers {members : List (String × Json)}
    (h : Json.MembersWithoutNumbers members) (frames : List Frame) (first : Bool)
    (before : List (Option String × Tree)) (rest : List Char)
    (hfirst : members = [] → first = true) :
    (Reading.key (.object before :: frames) first).Leads
      (Json.joinComma (Json.renderMembers members) ++ '}' :: rest)
      (place (.object (before.reverse ++ ofMembers members) .closed) frames) rest := by
  match members with
  | [] =>
    obtain rfl := hfirst rfl
    rw [ofMembers, List.append_nil]
    exact leads_mark '}' .closeObject (.key (.object before :: frames) true) rest
  | [(k, v)] =>
    have hmember := leads_member (leads_render h.1) k before frames first ('}' :: rest)
    have hclose := leads_mark '}' .closeObject
      (.after (.object ((some k, ofJson v) :: before) :: frames)) rest
    rw [Reading.step, List.reverse_cons] at hclose
    rw [Json.renderMembers, Json.renderMembers, Json.joinComma_singleton]
    exact hmember.trans hclose
  | (k, v) :: m :: ms =>
    have hmember := leads_member (leads_render h.1) k before frames first
      (',' :: (Json.joinComma (Json.renderMembers (m :: ms)) ++ '}' :: rest))
    have hcomma := leads_mark ',' .comma (.after (.object ((some k, ofJson v) :: before) :: frames))
      (Json.joinComma (Json.renderMembers (m :: ms)) ++ '}' :: rest)
    have hmembers := leads_renderMembers h.2 frames false ((some k, ofJson v) :: before) rest nofun
    rw [List.reverse_cons, List.append_assoc] at hmembers
    rw [Json.renderMembers, Json.renderMembers, Json.joinComma_cons_cons, List.append_assoc]
    exact (hmember.trans hcomma).trans hmembers

end

end Tree

/-- The text of a value without numbers is the document of the value. -/
theorem Document.ofText_toText {v : Json} (h : v.WithoutNumbers) :
    ofText v.toText = .ofJson v := by
  have hleads := Tree.leads_render h [] false []
  rw [List.append_nil] at hleads
  obtain ⟨fuel, -, hfold⟩ := hleads v.render.length (Nat.le_refl _)
  have hnil : Token.ofChars fuel [] = [] := by cases fuel <;> rfl
  rw [hnil] at hfold
  have htree : Tree.ofTokens (Token.ofText v.toText) = (.ofJson v, false) := by
    rw [Tree.ofTokens, Token.ofText, Json.toText, String.toList_ofList, hfold]
    rfl
  rw [ofText, htree]
  rfl

end RecordQuery
