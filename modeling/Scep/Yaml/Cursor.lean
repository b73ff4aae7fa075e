/-!
A place in a text, with the line and the column by which indentation is told.
-/

namespace Scep.Yaml

structure Cursor where
  rest : List Char
  index : Nat := 0
  line : Nat := 0
  column : Nat := 0
  deriving Repr

def isBreak (char : Char) : Bool :=
  char == '\n' || char == '\r' || char.toNat == 0x85 || char.toNat == 0x2028 ||
    char.toNat == 0x2029

def endsLine : Option Char → Bool
  | none => true
  | some char => isBreak char

def endsWord : Option Char → Bool
  | none => true
  | some char => isBreak char || char == ' '

def endsBlank (char : Option Char) : Bool := endsWord char || char == some '\t'

namespace Cursor

def peek (cursor : Cursor) (distance : Nat) : Option Char := (cursor.rest.drop distance).head?

def at? (cursor : Cursor) (char : Char) : Bool := cursor.rest.head? == some char

/-- The cursor after the next character.  A byte order mark takes no column. -/
def next (cursor : Cursor) : Cursor :=
  match cursor.rest with
  | [] => cursor
  | char :: rest =>
    if isBreak char && !(char == '\r' && rest.head? == some '\n') then
      ⟨rest, cursor.index + 1, cursor.line + 1, 0⟩
    else
      ⟨rest, cursor.index + 1, cursor.line,
        if char.toNat = 0xFEFF then cursor.column else cursor.column + 1⟩

def skip (cursor : Cursor) : Nat → Cursor
  | 0 => cursor
  | count + 1 => cursor.next.skip count

def span (cursor : Cursor) (kind : Char → Bool) : List Char × Cursor :=
  let run := cursor.rest.takeWhile kind
  (run, cursor.skip run.length)

def skipSpaces (cursor : Cursor) : Cursor := (cursor.span (· == ' ')).2

def skipLine (cursor : Cursor) : Cursor := (cursor.span fun char => !isBreak char).2

/-- The line break at the cursor, as the character that stands for it, and the
cursor after it. -/
def lineBreak? (cursor : Cursor) : Option (Char × Cursor) :=
  match cursor.rest with
  | '\r' :: '\n' :: _ => some ('\n', cursor.skip 2)
  | char :: _ =>
    if char.toNat = 0x2028 ∨ char.toNat = 0x2029 then some (char, cursor.next)
    else if isBreak char then some ('\n', cursor.next)
    else none
  | [] => none

def skipBreak (cursor : Cursor) : Cursor := (cursor.lineBreak?.map Prod.snd).getD cursor

def atMark (cursor : Cursor) (sign : Char) : Bool :=
  cursor.rest.take 3 == [sign, sign, sign] && endsBlank (cursor.peek 3)

def atDocumentMark (cursor : Cursor) : Bool := cursor.atMark '-' || cursor.atMark '.'

/-- The cursor after what may follow at the end of a line: spaces, a comment,
and the break.  Nothing else may. -/
def endLine? (cursor : Cursor) : Option Cursor :=
  let cursor := cursor.skipSpaces
  let cursor := if cursor.at? '#' then cursor.skipLine else cursor
  if endsLine (cursor.peek 0) then some cursor.skipBreak else none

end Cursor

end Scep.Yaml
