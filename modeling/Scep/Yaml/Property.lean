import Scep.Text.Utf8
import Scep.Yaml.Scalar

/-!
What may stand before a node or a document: anchors, tags and directives.
-/

namespace Scep.Yaml

def isNameChar (char : Char) : Bool :=
  ('0' ≤ char && char ≤ '9') || ('a' ≤ char && char ≤ 'z') || ('A' ≤ char && char ≤ 'Z') ||
    char == '-' || char == '_'

/-! ### Anchors and aliases -/

def anchorName (cursor : Cursor) : Option Lexeme :=
  let (name, after) := cursor.next.span isNameChar
  let ends := endsBlank (after.peek 0) ||
    (after.peek 0).any fun char => "?:,]\x7d%@\x60".toList.contains char
  if name.isEmpty || !ends then none else some ⟨name, after⟩

/-! ### Tags -/

structure TagName where
  handle : Option (List Char)
  suffix : List Char
  deriving DecidableEq, Repr

def isTagChar (char : Char) : Bool :=
  ('0' ≤ char && char ≤ '9') || ('a' ≤ char && char ≤ 'z') || ('A' ≤ char && char ≤ 'Z') ||
    "-;/?:@&=+$,_.!~*\x27()[]%".toList.contains char

/-- The octets of a run of escapes, last one first, and the cursor after it. -/
def tagEscapes (done : List UInt8) (cursor : Cursor) : Nat → Option (List UInt8 × Cursor)
  | 0 => none
  | fuel + 1 =>
    if cursor.at? '%' then
      match hexNumber? 2 (cursor.rest.drop 1) with
      | some value => tagEscapes (UInt8.ofNat value :: done) (cursor.skip 3) fuel
      | none => none
    else some (done, cursor)

def tagChars (done : List Char) (cursor : Cursor) : Nat → Option Lexeme
  | 0 => none
  | fuel + 1 =>
    match cursor.rest with
    | [] => some ⟨done.reverse, cursor⟩
    | char :: _ =>
      if char = '%' then
        match tagEscapes [] cursor cursor.rest.length.succ with
        | none => none
        | some (octets, after) =>
          match Text.Utf8.decode octets.reverse with
          | .ok text => tagChars (text.reverse ++ done) after fuel
          | .error _ => none
      else if isTagChar char then tagChars (char :: done) cursor.next fuel
      else some ⟨done.reverse, cursor⟩

def tagText (cursor : Cursor) : Option Lexeme := do
  let found ← tagChars [] cursor cursor.rest.length.succ
  if found.text.isEmpty then none else some found

/-- A tag handle: an exclamation mark before a space, or one on either side of a
name. -/
def tagHandle (cursor : Cursor) : Option Lexeme :=
  if !cursor.at? '!' then none
  else if cursor.next.at? ' ' then some ⟨['!'], cursor.next⟩
  else
    let (name, after) := cursor.next.span isNameChar
    if after.at? '!' then some ⟨'!' :: (name ++ ['!']), after.next⟩ else none

def hasNamedHandle (rest : List Char) : Bool :=
  (rest.takeWhile fun char => !endsWord (some char)).contains '!'

def tagName (cursor : Cursor) : Option (TagName × Cursor) := do
  let (tag, after) ←
    if cursor.next.at? '<' then do
      let suffix ← tagText (cursor.skip 2)
      if suffix.cursor.at? '>' then some (⟨none, suffix.text⟩, suffix.cursor.next) else none
    else if endsBlank (cursor.peek 1) then some (⟨none, ['!']⟩, cursor.next)
    else if hasNamedHandle (cursor.rest.drop 1) then do
      let handle ← tagHandle cursor
      let suffix ← tagText handle.cursor
      some (⟨some handle.text, suffix.text⟩, suffix.cursor)
    else do
      let suffix ← tagText cursor.next
      some (⟨some ['!'], suffix.text⟩, suffix.cursor)
  if endsWord (after.peek 0) then some (tag, after) else none

/-! ### Directives -/

inductive Directive where
  | version (major : Nat)
  | tag (handle lead : List Char)
  | unknown
  deriving DecidableEq, Repr

def versionNumber (cursor : Cursor) : Option (Nat × Cursor) :=
  let (digits, after) := cursor.span fun char => (Text.digitValue? char).isSome
  if digits.isEmpty then none
  else
    some ((digits.filterMap Text.digitValue?).foldl (fun value digit => value * 10 + digit) 0, after)

def versionDirective (cursor : Cursor) : Option (Directive × Cursor) := do
  let (major, after) ← versionNumber cursor.skipSpaces
  if !after.at? '.' then none
  else
    let (_, after) ← versionNumber after.next
    if endsWord (after.peek 0) then some (.version major, after) else none

def tagDirective (cursor : Cursor) : Option (Directive × Cursor) := do
  let handle ← tagHandle cursor.skipSpaces
  if !handle.cursor.at? ' ' then none
  else
    let lead ← tagText handle.cursor.skipSpaces
    if endsWord (lead.cursor.peek 0) then some (.tag handle.text lead.text, lead.cursor) else none

def directive (cursor : Cursor) : Option (Directive × Cursor) := do
  let (name, after) := cursor.next.span isNameChar
  if name.isEmpty || !endsWord (after.peek 0) then none
  else
    let (directive, after) ←
      if name = "YAML".toList then versionDirective after
      else if name = "TAG".toList then tagDirective after
      else some (.unknown, after.skipLine)
    let after ← after.endLine?
    some (directive, after)

end Scep.Yaml
