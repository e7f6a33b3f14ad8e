import RecordQuery.Json.Basic
import RecordQuery.Json.Token

/-!
# Trees of JSON texts

A text is read from left to right, and what is wanted of it may be refused before its end is
reached. The tree of a text therefore holds the text up to its first fault, and marks each array
and object that is not closed.

* `Tree`, a value that may break off;
* `Tree.ofTokens` and `Document.ofText`, which build a tree one token at a time;
* `Tree.ofJson`, the tree of a value;
* `Tree.isIntact`, no fault inside, and `Tree.literal?`, the value as free data.
-/

namespace RecordQuery

/-- How an array or an object ends: with its bracket or with a fault. -/
inductive Close
  | closed
  | broken

/-- A JSON text up to its first fault. -/
inductive Tree
  | null
  | bool (b : Bool)
  | number (n : Numeral)
  /-- A number beyond the finite numbers. -/
  | hugeNumber
  | string (s : String)
  /-- A string with half of a surrogate pair. -/
  | halfString
  | array (items : List Tree) (close : Close)
  /-- Members in the order of the text. A key is absent where it has half of a surrogate pair. -/
  | object (members : List (Option String × Tree)) (close : Close)
  | fault
  deriving Inhabited

namespace Tree

/-- An array or object whose bracket is still to come; its parts are in reverse order. -/
inductive Frame
  | array (items : List Tree)
  | object (members : List (Option String × Tree))
  | member (members : List (Option String × Tree)) (key : Option String)

/-- Where the reading of a text stands. -/
inductive Reading
  /-- A value is wanted; right after an opening bracket the array may also close. -/
  | value (frames : List Frame) (first : Bool)
  /-- A key is wanted; right after an opening brace the object may also close. -/
  | key (frames : List Frame) (first : Bool)
  /-- A colon is wanted. -/
  | colon (frames : List Frame)
  /-- A value is complete; a comma or the closing bracket is wanted. -/
  | after (frames : List Frame)
  /-- The text is complete up to here, and `trailing` tells whether more follows. -/
  | done (t : Tree) (trailing : Bool)

/-- Ends the tree at a fault. -/
def breakOff : List Frame → Tree
  | [] => .fault
  | .array items :: frames => outer frames (.array items.reverse .broken)
  | .object members :: frames => outer frames (.object members.reverse .broken)
  | .member members key :: frames =>
    outer frames (.object ((key, .fault) :: members).reverse .broken)
where
  /-- Puts a broken value into the arrays and objects around it. -/
  outer : List Frame → Tree → Tree
    | [], inner => inner
    | .array items :: frames, inner => outer frames (.array (inner :: items).reverse .broken)
    | .object members :: frames, _ => outer frames (.object members.reverse .broken)
    | .member members key :: frames, inner =>
      outer frames (.object ((key, inner) :: members).reverse .broken)

/-- Puts a complete value where it belongs. -/
def place (t : Tree) : List Frame → Reading
  | [] => .done t false
  | .array items :: frames => .after (.array (t :: items) :: frames)
  | .member members key :: frames => .after (.object ((key, t) :: members) :: frames)
  | .object members :: frames => .after (.object members :: frames)

/-- The tree of a token that is a value by itself. -/
def scalar? : Token → Option Tree
  | .null => some .null
  | .bool b => some (.bool b)
  | .number (some n) => some (.number n)
  | .number none => some .hugeNumber
  | .string (some s) => some (.string s)
  | .string none => some .halfString
  | _ => none

/-- Takes one more token. -/
def Reading.step : Reading → Token → Reading
  | .done t _, _ => .done t true
  | .value frames first, t =>
    match t, frames with
    | .openArray, _ => .value (.array [] :: frames) true
    | .openObject, _ => .key (.object [] :: frames) true
    | .closeArray, .array items :: outer =>
      if first then place (.array items.reverse .closed) outer
      else .done (breakOff frames) false
    | t, _ =>
      match scalar? t with
      | some v => place v frames
      | none => .done (breakOff frames) false
  | .key frames first, t =>
    match t, frames with
    | .string k, .object members :: outer => .colon (.member members k :: outer)
    | .closeObject, .object members :: outer =>
      if first then place (.object members.reverse .closed) outer
      else .done (breakOff frames) false
    | _, _ => .done (breakOff frames) false
  | .colon frames, t =>
    match t with
    | .colon => .value frames false
    | _ => .done (breakOff frames) false
  | .after frames, t =>
    match t, frames with
    | .comma, .array _ :: _ => .value frames false
    | .comma, .object _ :: _ => .key frames false
    | .closeArray, .array items :: outer => place (.array items.reverse .closed) outer
    | .closeObject, .object members :: outer => place (.object members.reverse .closed) outer
    | _, _ => .done (breakOff frames) false

/-- The tree when no more tokens come, and whether something follows it. -/
def Reading.finish : Reading → Tree × Bool
  | .done t trailing => (t, trailing)
  | .value frames _ => (breakOff frames, false)
  | .key frames _ => (breakOff frames, false)
  | .colon frames => (breakOff frames, false)
  | .after frames => (breakOff frames, false)

/-- The tree of tokens, and whether something follows it. -/
def ofTokens (tokens : List Token) : Tree × Bool :=
  (tokens.foldl Reading.step (.value [] false)).finish

mutual

/-- The tree of a value. -/
def ofJson : Json → Tree
  | .null => .null
  | .bool b => .bool b
  | .number n => .number n
  | .string s => .string s
  | .array items => .array (ofItems items) .closed
  | .object members => .object (ofMembers members) .closed

/-- The trees of the items. -/
def ofItems : List Json → List Tree
  | [] => []
  | v :: vs => ofJson v :: ofItems vs

/-- The trees of the members. -/
def ofMembers : List (String × Json) → List (Option String × Tree)
  | [] => []
  | (k, v) :: ms => (some k, ofJson v) :: ofMembers ms

end

mutual

/-- The text is well-formed. Numbers beyond the finite ones and half surrogate pairs are. -/
def isIntact : Tree → Bool
  | .array items .closed => itemsIntact items
  | .object members .closed => membersIntact members
  | .array _ .broken => false
  | .object _ .broken => false
  | .fault => false
  | _ => true

/-- Every item is well-formed. -/
def itemsIntact : List Tree → Bool
  | [] => true
  | t :: ts => t.isIntact && itemsIntact ts

/-- Every member is well-formed. -/
def membersIntact : List (Option String × Tree) → Bool
  | [] => true
  | (_, t) :: ms => t.isIntact && membersIntact ms

end

mutual

/-- The value as free data, with at most `room` arrays and objects inside each other: keys are
sorted, and of repeated keys the last counts. -/
def json? (room : Nat) : Tree → Option Json
  | .null => some .null
  | .bool b => some (.bool b)
  | .number n => if n.isCanonical then some (.number n) else none
  | .string s => some (.string s)
  | .array items .closed =>
    match room with
    | 0 => none
    | room + 1 => (itemsJson? room items).map .array
  | .object members .closed =>
    match room with
    | 0 => none
    | room + 1 => (membersJson? room members []).map .object
  | _ => none

/-- The items as free data. -/
def itemsJson? (room : Nat) : List Tree → Option (List Json)
  | [] => some []
  | t :: ts => do
    let v ← json? room t
    let vs ← itemsJson? room ts
    return v :: vs

/-- The members as free data, put in after those before them. -/
def membersJson? (room : Nat) :
    List (Option String × Tree) → List (String × Json) → Option (List (String × Json))
  | [], entries => some entries
  | (none, _) :: _, _ => none
  | (some k, t) :: ms, entries => do
    let v ← json? room t
    membersJson? room ms (insertEntry k v entries)

end

mutual

theorem json?_canonical {room : Nat} {t : Tree} {v : Json} (h : json? room t = some v) :
    v.Canonical := by
  cases t with
  | null => simp only [json?, Option.some.injEq] at h; subst h; trivial
  | bool b => simp only [json?, Option.some.injEq] at h; subst h; trivial
  | string s => simp only [json?, Option.some.injEq] at h; subst h; trivial
  | number n =>
    simp only [json?, Option.ite_none_right_eq_some, Option.some.injEq] at h
    obtain ⟨hn, rfl⟩ := h
    exact hn
  | hugeNumber => simp [json?] at h
  | halfString => simp [json?] at h
  | fault => simp [json?] at h
  | array items close =>
    cases close <;> cases room <;> simp only [json?, reduceCtorEq, Option.map_eq_some_iff] at h
    obtain ⟨vs, hvs, rfl⟩ := h
    exact itemsJson?_canonical hvs
  | object members close =>
    cases close <;> cases room <;> simp only [json?, reduceCtorEq, Option.map_eq_some_iff] at h
    obtain ⟨ms, hms, rfl⟩ := h
    exact membersJson?_canonical List.Pairwise.nil trivial hms

theorem itemsJson?_canonical {room : Nat} {ts : List Tree} {vs : List Json}
    (h : itemsJson? room ts = some vs) : Json.ItemsCanonical vs := by
  cases ts with
  | nil => simp only [itemsJson?, Option.some.injEq] at h; subst h; trivial
  | cons t ts =>
    simp only [itemsJson?, Option.bind_eq_bind, Option.bind_eq_some_iff, Option.pure_def,
      Option.some.injEq] at h
    obtain ⟨v, hv, vs, hvs, rfl⟩ := h
    exact ⟨json?_canonical hv, itemsJson?_canonical hvs⟩

theorem membersJson?_canonical {room : Nat} {ms : List (Option String × Tree)}
    {entries result : List (String × Json)} (hs : SortedEntries entries)
    (hc : Json.MembersCanonical entries) (h : membersJson? room ms entries = some result) :
    SortedEntries result ∧ Json.MembersCanonical result := by
  match ms with
  | [] => simp only [membersJson?, Option.some.injEq] at h; subst h; exact ⟨hs, hc⟩
  | (none, t) :: ms => simp [membersJson?] at h
  | (some k, t) :: ms =>
    simp only [membersJson?, Option.bind_eq_bind, Option.bind_eq_some_iff] at h
    obtain ⟨v, hv, h⟩ := h
    exact membersJson?_canonical (hs.insertEntry k v) (hc.insertEntry (json?_canonical hv)) h

end

/-- The value as a literal. -/
def literal? (room : Nat) (t : Tree) : Option Literal :=
  match h : json? room t with
  | some v => some ⟨v, json?_canonical h⟩
  | none => none

end Tree

/-- A text as a tree, and whether anything but blanks follows the tree. -/
structure Document where
  tree : Tree
  trailing : Bool

namespace Document

/-- The document of a text. -/
def ofText (text : String) : Document :=
  let (tree, trailing) := Tree.ofTokens (Token.ofText text)
  ⟨tree, trailing⟩

/-- The document of a value. -/
def ofJson (v : Json) : Document :=
  ⟨.ofJson v, false⟩

end Document

end RecordQuery
