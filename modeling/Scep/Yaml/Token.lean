import Scep.Yaml.Property

/-!
The tokens of a document.

Indentation becomes tokens of its own: a collection of lines starts where its
first entry is indented further than what is around it, and ends before the
first line that is indented less.  The key of a mapping shows itself only by the
colon after it, so each token that may start one is remembered until the line
ends, and the tokens that mark a key are put in front of it when the colon comes.
-/

namespace Scep.Yaml

inductive Token where
  | directive (directive : Directive)
  | documentStart
  | documentEnd
  | blockSequence
  | blockMapping
  | blockEnd
  | flowSequence
  | flowSequenceEnd
  | flowMapping
  | flowMappingEnd
  | blockEntry
  | flowEntry
  | key
  | value
  | alias (name : List Char)
  | anchor (name : List Char)
  | tag (name : TagName)
  | scalar (text : List Char) (plain : Bool)
  deriving DecidableEq, Repr

structure KeyPlace where
  position : Nat
  required : Bool
  index : Nat
  line : Nat
  column : Nat

structure Scan where
  cursor : Cursor
  done : List Token := []
  count : Nat := 0
  indent : Int := -1
  outer : List Int := []
  keyAllowed : Bool := true
  /-- Where a key may have started in the innermost flow collection, and in
  each of those around it. -/
  place : Option KeyPlace := none
  places : List (Option KeyPlace) := []

namespace Scan

def inFlow (scan : Scan) : Bool := !scan.places.isEmpty

def emit (scan : Scan) (token : Token) : Scan :=
  { scan with done := token :: scan.done, count := scan.count + 1 }

def insert (scan : Scan) (position : Nat) (tokens : List Token) : Scan :=
  let later := scan.count - position
  { scan with
    done := scan.done.take later ++ (tokens.reverse ++ scan.done.drop later)
    count := scan.count + tokens.length }

def skipBlanks (scan : Scan) : Nat → Scan
  | 0 => scan
  | fuel + 1 =>
    let cursor := scan.cursor.skipSpaces
    let cursor := if cursor.at? '#' then cursor.skipLine else cursor
    match cursor.lineBreak? with
    | none => { scan with cursor }
    | some (_, cursor) =>
      skipBlanks { scan with cursor, keyAllowed := scan.keyAllowed || !scan.inFlow } fuel

/-- Whether a key that started at a place may no longer end: it takes one line
and at most 1024 characters. -/
def isStale (scan : Scan) (place : KeyPlace) : Bool :=
  place.line != scan.cursor.line || place.index + 1024 < scan.cursor.index

def dropStale (scan : Scan) : Option Scan :=
  let stale := fun place : Option KeyPlace => place.any scan.isStale
  let refused := fun place : Option KeyPlace =>
    place.any fun place => scan.isStale place && place.required
  if refused scan.place || scan.places.any refused then none
  else
    let keep := fun place : Option KeyPlace => if stale place then none else place
    some { scan with place := keep scan.place, places := scan.places.map keep }

def dropPlace (scan : Scan) : Option Scan :=
  if scan.place.any KeyPlace.required then none else some { scan with place := none }

def savePlace (scan : Scan) : Option Scan :=
  if scan.keyAllowed then do
    let scan ← scan.dropPlace
    let cursor := scan.cursor
    some { scan with place := some {
      position := scan.count
      required := !scan.inFlow && scan.indent == cursor.column
      index := cursor.index
      line := cursor.line
      column := cursor.column } }
  else some scan

def unwindFrom (scan : Scan) (column : Int) : List Int → Scan
  | [] => scan
  | indent :: outer =>
    if column < scan.indent then
      unwindFrom { scan.emit .blockEnd with indent, outer } column outer
    else scan

def unwind (scan : Scan) (column : Int) : Scan :=
  if scan.inFlow then scan else unwindFrom scan column scan.outer

/-- Whether a collection of lines starts at a column, and the state inside
it. -/
def nest (scan : Scan) (column : Nat) : Bool × Scan :=
  if scan.indent < column then
    (true, { scan with indent := column, outer := scan.indent :: scan.outer })
  else (false, scan)

def take (scan : Scan) (count : Nat) (token : Token) : Scan :=
  { scan with cursor := scan.cursor.skip count }.emit token

/-! ### Single tokens -/

def takeDirective (scan : Scan) : Option Scan := do
  let scan ← (scan.unwind (-1)).dropPlace
  let (directive, cursor) ← directive scan.cursor
  some ({ scan with cursor, keyAllowed := false }.emit (.directive directive))

def takeMark (scan : Scan) (token : Token) : Option Scan := do
  let scan ← (scan.unwind (-1)).dropPlace
  some ({ scan with keyAllowed := false }.take 3 token)

def openFlow (scan : Scan) (token : Token) : Option Scan := do
  let scan ← scan.savePlace
  some ({ scan with
    place := none, places := scan.place :: scan.places, keyAllowed := true }.take 1 token)

def closeFlow (scan : Scan) (token : Token) : Option Scan := do
  let scan ← scan.dropPlace
  match scan.places with
  | [] => none
  | place :: places => some ({ scan with place, places, keyAllowed := false }.take 1 token)

def takeFlowEntry (scan : Scan) : Option Scan := do
  let scan ← scan.dropPlace
  some ({ scan with keyAllowed := true }.take 1 .flowEntry)

/-- The sign of a line that is an entry of a collection, which starts one where
it is indented further. -/
def takeLineSign (scan : Scan) (start token : Token) (keyAllowed : Bool) : Option Scan := do
  let scan ←
    if scan.inFlow then some scan
    else if !scan.keyAllowed then none
    else
      let (starts, scan) := scan.nest scan.cursor.column
      some (if starts then scan.emit start else scan)
  let scan ← scan.dropPlace
  some ({ scan with keyAllowed }.take 1 token)

def takeValue (scan : Scan) : Option Scan :=
  match scan.place with
  | none => scan.takeLineSign .blockMapping .value (!scan.inFlow)
  | some place =>
    let (starts, nested) :=
      if scan.inFlow then (false, scan) else scan.nest place.column
    let tokens := if starts then [.blockMapping, .key] else [.key]
    some ({ nested.insert place.position tokens with
      place := none, keyAllowed := false }.take 1 .value)

def takeNode (scan : Scan) (read : Cursor → Option (Token × Cursor)) : Option Scan := do
  let scan ← scan.savePlace
  let (token, cursor) ← read scan.cursor
  some ({ scan with cursor, keyAllowed := false }.emit token)

/-- A plain scalar.  A key may start after it if it ends before another line. -/
def takePlain (scan : Scan) : Option Scan := do
  let scan ← scan.savePlace
  let (found, broken) := plainScalar scan.inFlow (scan.indent + 1) scan.cursor
  some ({ scan with cursor := found.cursor, keyAllowed := broken }.emit (.scalar found.text true))

def takeBlock (scan : Scan) (folded : Bool) : Option Scan := do
  let scan ← scan.dropPlace
  let found ← blockScalar folded scan.indent scan.cursor
  some ({ scan with cursor := found.cursor, keyAllowed := true }.emit (.scalar found.text false))

/-! ### The next token -/

def startsPlain (inFlow : Bool) (char : Char) (next : Option Char) : Bool :=
  !(endsBlank (some char) || "-?:,[]\x7b\x7d#&*!|>\x27\x22%@\x60".toList.contains char) ||
    (!endsBlank next && (char == '-' || (!inFlow && (char == '?' || char == ':'))))

def dispatch (scan : Scan) (char : Char) : Option Scan :=
  let cursor := scan.cursor
  let lexeme := fun (wrap : List Char → Token) (found : Option Lexeme) =>
    found.map fun found => (wrap found.text, found.cursor)
  let signs := scan.inFlow || endsBlank (cursor.peek 1)
  if char = '%' ∧ cursor.column = 0 then scan.takeDirective
  else if cursor.column = 0 ∧ cursor.atMark '-' then scan.takeMark .documentStart
  else if cursor.column = 0 ∧ cursor.atMark '.' then scan.takeMark .documentEnd
  else if char = '[' then scan.openFlow .flowSequence
  else if char = '\x7b' then scan.openFlow .flowMapping
  else if char = ']' then scan.closeFlow .flowSequenceEnd
  else if char = '\x7d' then scan.closeFlow .flowMappingEnd
  else if char = ',' then scan.takeFlowEntry
  else if char = '-' ∧ endsBlank (cursor.peek 1) then
    scan.takeLineSign .blockSequence .blockEntry true
  else if char = '?' ∧ signs then scan.takeLineSign .blockMapping .key (!scan.inFlow)
  else if char = ':' ∧ signs then scan.takeValue
  else if char = '*' then scan.takeNode fun cursor => lexeme .alias (anchorName cursor)
  else if char = '&' then scan.takeNode fun cursor => lexeme .anchor (anchorName cursor)
  else if char = '!' then
    scan.takeNode fun cursor => (tagName cursor).map fun (name, after) => (.tag name, after)
  else if (char = '|' ∨ char = '>') ∧ !scan.inFlow then scan.takeBlock (char = '>')
  else if char = '\x27' ∨ char = '\x22' then
    scan.takeNode fun cursor =>
      lexeme (fun text => .scalar text false) (quotedScalar (char = '\x22') cursor)
  else if startsPlain scan.inFlow char (cursor.peek 1) then scan.takePlain
  else none

/-- All tokens from a state on.  Every step but the last moves the cursor. -/
def finish (scan : Scan) : Nat → Option (List Token)
  | 0 => none
  | fuel + 1 => do
    let scan ← (scan.skipBlanks scan.cursor.rest.length.succ).dropStale
    let scan := scan.unwind scan.cursor.column
    match scan.cursor.rest with
    | [] =>
      let scan ← (scan.unwind (-1)).dropPlace
      some scan.done.reverse
    | char :: _ =>
      let scan ← scan.dispatch char
      scan.finish fuel

end Scan

/-- The tokens of a text, if it is written well.  A byte order mark at its start
is no part of it. -/
def tokens (text : List Char) : Option (List Token) :=
  let cursor : Cursor := ⟨text, 0, 0, 0⟩
  let cursor := if cursor.at? (Char.ofNat 0xFEFF) then cursor.next else cursor
  ({ cursor : Scan }).finish (text.length + 2)

end Scep.Yaml
