import RecordQuery.Yaml.Line

/-!
# Numeric settings in YAML

Settings are one YAML mapping from names to natural numbers, written as a block with a line for
each entry or as a flow between braces.

* `Yaml.flow?` and `Yaml.block?`, the entries of the two forms;
* `Yaml.settings?`, the entries of a text in their order. A text without entries has none.
-/

namespace RecordQuery.Yaml

/-- A setting: its name and its value. -/
abbrev Entry := String × Nat

/-- The name in front of a colon, which comes at most 1024 characters after the start of the name.
Only in a flow, and after a quoted name, may something stand right behind the colon. -/
def name? (inFlow : Bool) (key colon : Placed) : Option String :=
  if key.column + 1024 < colon.column then none
  else
    match key.token, colon.token with
    | .word cs, .colon => some (String.ofList cs)
    | .quoted cs, .colon => some (String.ofList cs)
    | .quoted cs, .tightColon => if inFlow then some (String.ofList cs) else none
    | _, _ => none

/-- The lines after a document hold comments and marks of its end at most. -/
def isEnd (lines : List (List Char)) : Bool :=
  lines.all fun line =>
    match Line.ofText? line with
    | some ⟨none, [], _⟩ => true
    | some ⟨none, [⟨_, .stop⟩], _⟩ => true
    | _ => false

/-- What comes next in a flow. -/
inductive FlowNext
  /-- An entry or the closing brace. -/
  | entry
  | value (name : String)
  /-- A comma or the closing brace. -/
  | separator

/-- The entries on a line of a flow, and what comes next, unless the flow is closed. A name and its
colon stand on one line. -/
def flowLine? : FlowNext → List Placed → Option (List Entry × Option FlowNext)
  | next, [] => some ([], some next)
  | .entry, [⟨_, .closeBrace⟩] => some ([], none)
  | .separator, [⟨_, .closeBrace⟩] => some ([], none)
  | .entry, key :: colon :: ts => do flowLine? (.value (← name? true key colon)) ts
  | .value name, ⟨_, .word cs⟩ :: ts => do
    let n ← natural? cs
    let (entries, next) ← flowLine? .separator ts
    return ((name, n) :: entries, next)
  | .separator, ⟨_, .comma⟩ :: ts => flowLine? .entry ts
  | _, _ => none

/-- The entries of a flow, of which some tokens and lines are left. -/
def flow? (next : FlowNext) (ts : List Placed) (lines : List (List Char)) :
    Option (List Entry) := do
  match ← flowLine? next ts, lines with
  | (entries, none), lines => if isEnd lines then some entries else none
  | (entries, some next), line :: lines =>
    return entries ++ (← flow? next (← Line.ofText? line).tokens lines)
  | (_, some _), [] => none

/-- What comes next in a block. -/
inductive BlockNext
  /-- An entry. Where a plain value comes right before it, on a line without a comment, the value
  might go on. -/
  | entry (afterValue : Bool)
  | value (name : String)

/-- Whether a tab may stand in a column in front of a line: only where a plain value might go on,
right of the column of the names. -/
def BlockNext.allowsTab (column : Nat) : BlockNext → Nat → Bool
  | .entry true, tab => column < tab
  | _, _ => false

/-- What comes next after a line without tokens. A comment ends a plain value. -/
def BlockNext.afterEmpty (commented : Bool) : BlockNext → BlockNext
  | .entry afterValue => .entry (afterValue && !commented)
  | .value name => .value name

/-- The entries of a block whose names stand in one column. A value may stand on a line of its own
that is indented further. -/
def block? (column : Nat) : BlockNext → List (List Char) → Option (List Entry)
  | .entry _, [] => some []
  | .value _, [] => none
  | next, line :: lines => do
    let l ← Line.ofText? line
    if !l.tab.all (next.allowsTab column) then none
    match next, l.tokens with
    | next, [] => block? column (next.afterEmpty l.commented) lines
    | .entry _, [⟨_, .stop⟩] => if isEnd lines then some [] else none
    | .entry _, key :: colon :: ts =>
      if key.column ≠ column then none
      let name ← name? false key colon
      match ts with
      | [] => block? column (.value name) lines
      | [⟨_, .word cs⟩] =>
        return (name, ← natural? cs) :: (← block? column (.entry !l.commented) lines)
      | _ => none
    | .value name, [⟨indentation, .word cs⟩] =>
      if indentation ≤ column then none
      return (name, ← natural? cs) :: (← block? column (.entry !l.commented) lines)
    | _, _ => none

/-- The entries of a document; `started` tells whether its start has been marked. On the line of
that mark only a flow may follow. -/
def document? (started : Bool) : List (List Char) → Option (List Entry)
  | [] => some []
  | line :: lines => do
    let l ← Line.ofText? line
    if l.tab.isSome then none
    match l.tokens with
    | [] => document? started lines
    | [⟨_, .stop⟩] => if started && isEnd lines then some [] else none
    | ⟨_, .openBrace⟩ :: ts => flow? .entry ts lines
    | ⟨_, .start⟩ :: ts =>
      if started then none
      match ts with
      | [] => document? true lines
      | ⟨_, .openBrace⟩ :: ts => flow? .entry ts lines
      | _ => none
    | t :: _ => block? t.column (.entry false) (line :: lines)

/-- The entries of settings. A byte order mark may stand in front of the text. -/
def settings? (text : String) : Option (List Entry) :=
  let cs := text.toList
  let cs := if cs.head? = some '\uFEFF' then cs.drop 1 else cs
  if cs.all isAllowed then document? false (lines cs) else none

end RecordQuery.Yaml
