import RecordQuery.Text.Digits

/-!
# Universally unique identifiers

* `Uuid`, a number of 128 bits;
* `Uuid.render`, five groups of hexadecimal digits joined by hyphens;
* `Uuid.read`, which accepts 32 digits, the hyphenated groups, the groups in braces, and the groups
  after `urn:uuid:`;
* `UuidFault`, why a text is none of these.
-/

namespace RecordQuery

open Text

/-- An identifier of 128 bits. -/
structure Uuid where
  value : BitVec 128
  deriving DecidableEq, Inhabited

/-- Why a text is no identifier. -/
inductive UuidFault
  | character (found : Char) (index : Nat)
  | length (found : Nat)
  | groupCount (found : Nat)
  | groupLength (group expected found : Nat)
  deriving DecidableEq

/-- The wording of a fault. -/
def UuidFault.message : UuidFault → String
  | .character c i => s!"invalid character: found `{c}` at {i}"
  | .length n => s!"invalid length: found {n}"
  | .groupCount n => s!"invalid group count: expected 5, found {n}"
  | .groupLength g e n => s!"invalid group length in group {g}: expected {e}, found {n}"

namespace Uuid

/-- The order of the numbers, which is the order of their bytes. -/
def compare (a b : Uuid) : Ordering :=
  Ord.compare a.value.toNat b.value.toNat

/-- The last `width` hexadecimal digits of a number, most significant first. -/
def hexDigits : Nat → Nat → List Char
  | 0, _ => []
  | width + 1, n => hexDigits width (n / 16) ++ [Nat.digitChar (n % 16)]

/-- The hyphenated text in lower case. -/
def render (u : Uuid) : List Char :=
  let ds := hexDigits 32 u.value.toNat
  ds.take 8 ++ '-' :: (ds.drop 8).take 4 ++ '-' :: (ds.drop 12).take 4 ++
    '-' :: (ds.drop 16).take 4 ++ '-' :: ds.drop 20

/-- The number that hexadecimal digits write. -/
def ofHex? (cs : List Char) : Option Nat :=
  cs.foldlM (fun n c => (hexValue? c).map (16 * n + ·)) 0

/-- The identifier of exactly 32 digits. -/
def readSimple? (cs : List Char) : Option Uuid :=
  if cs.length = 32 then (ofHex? cs).map fun n => ⟨BitVec.ofNat 128 n⟩ else none

/-- The identifier of 36 characters with hyphens after the digits 8, 12, 16 and 20. -/
def readHyphenated? (cs : List Char) : Option Uuid :=
  if cs[8]? = some '-' ∧ cs[13]? = some '-' ∧ cs[18]? = some '-' ∧ cs[23]? = some '-' then
    readSimple? (cs.take 8 ++ (cs.drop 9).take 4 ++ (cs.drop 14).take 4 ++ (cs.drop 19).take 4 ++
      cs.drop 24)
  else none

/-- The text between braces. -/
def inBraces? : List Char → Option (List Char)
  | '{' :: cs => if cs.getLast? = some '}' then some cs.dropLast else none
  | _ => none

/-- The text after `urn:uuid:` in any case. -/
def afterUrn? (cs : List Char) : Option (List Char) :=
  if (cs.take 9).map Char.toLower = "urn:uuid:".toList then some (cs.drop 9) else none

/-- The first character that is neither a hexadecimal digit nor a hyphen, with its index in
bytes. -/
def strayCharacter? (index : Nat) : List Char → Option UuidFault
  | [] => none
  | c :: cs =>
    if c = '-' ∨ (hexValue? c).isSome then strayCharacter? (index + 1) cs
    else some (.character c index)

/-- The offsets of the hyphens. -/
def hyphens (cs : List Char) : List Nat :=
  cs.zipIdx.filterMap fun (c, i) => if c = '-' then some i else none

/-- The lengths of the groups and the offsets at which they start. -/
def groups : List (Nat × Nat) := [(8, 0), (4, 9), (4, 14), (4, 19)]

/-- The first hyphen that does not end its group where it should. -/
def groupFault? (cs : List Char) : Option UuidFault :=
  ((groups.zip (hyphens cs)).zipIdx.find? fun (((len, start), at'), _) => at' != start + len).map
    fun (((len, start), at'), group) => .groupLength group len (at' - start)

/-- What is wrong with a text of `total` bytes, of which the characters from byte `index` on are
examined. A text without hyphens is taken for plain digits unless it is known to be
hyphenated. -/
def examine (hyphenated : Bool) (total index : Nat) (cs : List Char) : UuidFault :=
  match strayCharacter? index cs with
  | some fault => fault
  | none =>
    let count := (hyphens cs).length
    if !hyphenated && count == 0 then .length total
    else if count ≠ 4 then .groupCount (count + 1)
    else (groupFault? cs).getD (.groupLength 4 12 (total - 24))

/-- What is wrong with a text that is no identifier. -/
def diagnose (cs : List Char) : UuidFault :=
  let total := utf8Length cs
  if total = 0 ∨ 45 < total then .length total
  else if total = 36 then examine true 36 0 cs
  else
    match inBraces? cs with
    | some inner => if total = 38 then examine true 36 0 inner else examine true total 1 inner
    | none =>
      match afterUrn? cs with
      | some inner => if total = 45 then examine true 36 0 inner else examine true total 9 inner
      | none => examine false total 0 cs

/-- The identifier in any of the accepted forms. -/
def read? (cs : List Char) : Option Uuid :=
  readSimple? cs <|> readHyphenated? cs <|> (inBraces? cs).bind readHyphenated? <|>
    (afterUrn? cs).bind readHyphenated?

/-- The identifier that a text writes, or what is wrong with the text. -/
def read (cs : List Char) : Except UuidFault Uuid :=
  match read? cs with
  | some u => .ok u
  | none => .error (diagnose cs)

end Uuid

end RecordQuery
