import Scep.Text.Digit
import Scep.Yaml.Cursor

/-!
The four ways to write a scalar: plain, in quotes, and as a block of lines.

In all of them line breaks fold: a single one becomes a space, and of several
the first one is dropped.
-/

namespace Scep.Yaml

structure Lexeme where
  text : List Char
  cursor : Cursor

/-- What a folded line break becomes, given the empty lines after it. -/
def fold (first : Char) (others : List Char) : List Char :=
  if first ≠ '\n' then first :: others
  else if others.isEmpty then [' ']
  else others

/-! ### Quoted scalars -/

def escaped? (char : Char) : Option Char :=
  match char with
  | '0' => some (Char.ofNat 0)
  | 'a' => some (Char.ofNat 7)
  | 'b' => some (Char.ofNat 8)
  | 't' | '\t' => some '\t'
  | 'n' => some '\n'
  | 'v' => some (Char.ofNat 0xB)
  | 'f' => some (Char.ofNat 0xC)
  | 'r' => some '\r'
  | 'e' => some (Char.ofNat 0x1B)
  | ' ' => some ' '
  | '\x22' => some '\x22'
  | '\\' => some '\\'
  | '/' => some '/'
  | 'N' => some (Char.ofNat 0x85)
  | '_' => some (Char.ofNat 0xA0)
  | 'L' => some (Char.ofNat 0x2028)
  | 'P' => some (Char.ofNat 0x2029)
  | _ => none

def escapeWidth? (char : Char) : Option Nat :=
  match char with
  | 'x' => some 2
  | 'u' => some 4
  | 'U' => some 8
  | _ => none

def hexNumber? (width : Nat) (text : List Char) : Option Nat :=
  let digits := (text.take width).filterMap Text.hexValue?
  if digits.length = width then some (digits.foldl (fun value digit => value * 16 + digit) 0)
  else none

/-- Empty lines in front of the next word of a quoted scalar, last one first.
No document mark may stand at the start of a line. -/
def quotedBreaks (done : List Char) (cursor : Cursor) : Nat → Option Lexeme
  | 0 => none
  | fuel + 1 =>
    if cursor.atDocumentMark then none
    else
      let cursor := (cursor.span fun char => char == ' ' || char == '\t').2
      match cursor.lineBreak? with
      | some (char, cursor) => quotedBreaks (char :: done) cursor fuel
      | none => some ⟨done.reverse, cursor⟩

def quotedFrom (double : Bool) (done : List Char) (cursor : Cursor) : Nat → Option Lexeme
  | 0 => none
  | fuel + 1 =>
    match cursor.rest with
    | [] => none
    | char :: rest =>
      if char = ' ' ∨ char = '\t' ∨ isBreak char then
        let (blanks, after) := cursor.span fun char => char == ' ' || char == '\t'
        match after.lineBreak? with
        | none =>
          if after.rest.isEmpty then none else quotedFrom double (blanks.reverse ++ done) after fuel
        | some (first, after) =>
          match quotedBreaks [] after after.rest.length.succ with
          | none => none
          | some others =>
            quotedFrom double ((fold first others.text).reverse ++ done) others.cursor fuel
      else if double then
        if char = '\x22' then some ⟨done.reverse, cursor.next⟩
        else if char = '\\' then
          match rest with
          | [] => none
          | letter :: digits =>
            match escaped? letter, escapeWidth? letter with
            | some char, _ => quotedFrom double (char :: done) (cursor.skip 2) fuel
            | none, some width =>
              match hexNumber? width digits with
              | none => none
              | some code =>
                if 0x110000 ≤ code then none
                else
                  let char := if Nat.isValidChar code then Char.ofNat code else Char.ofNat 0xFFFD
                  quotedFrom double (char :: done) (cursor.skip (2 + width)) fuel
            | none, none =>
              match cursor.next.lineBreak? with
              | none => none
              | some (_, after) =>
                match quotedBreaks [] after after.rest.length.succ with
                | none => none
                | some others =>
                  quotedFrom double (others.text.reverse ++ done) others.cursor fuel
        else quotedFrom double (char :: done) cursor.next fuel
      else if char = '\x27' then
        if rest.head? = some '\x27' then quotedFrom double (char :: done) (cursor.skip 2) fuel
        else some ⟨done.reverse, cursor.next⟩
      else quotedFrom double (char :: done) cursor.next fuel

def quotedScalar (double : Bool) (cursor : Cursor) : Option Lexeme :=
  quotedFrom double [] cursor.next cursor.rest.length.succ

/-! ### Plain scalars -/

/-- A run of characters of a plain scalar, last one first.  A colon ends it
before a blank, and in a flow collection its signs end it. -/
def plainRun (inFlow : Bool) (done : List Char) : List Char → List Char
  | [] => done
  | char :: rest =>
    if char = ' ' ∨ char = '\t' ∨ isBreak char then done
    else if char = ':' ∧ (endsBlank rest.head? ∨
        (inFlow ∧ rest.head?.any fun next => [',', '[', ']', '\x7b', '\x7d'].contains next)) then
      done
    else if inFlow ∧ [',', '?', '[', ']', '\x7b', '\x7d'].contains char then done
    else plainRun inFlow (char :: done) rest

/-- Empty lines between the words of a plain scalar, last one first, up to the
next word or a document mark, which the flag reports. -/
def plainBreaks (done : List Char) (cursor : Cursor) : Nat → Lexeme × Bool
  | 0 => (⟨done.reverse, cursor⟩, false)
  | fuel + 1 =>
    match cursor.lineBreak? with
    | some (char, after) =>
      if after.atDocumentMark then (⟨(char :: done).reverse, after⟩, true)
      else plainBreaks (char :: done) after fuel
    | none =>
      if cursor.at? ' ' then plainBreaks done cursor.next fuel
      else (⟨done.reverse, cursor⟩, false)

/-- The blanks after a word of a plain scalar, whether they hold a line break,
and the cursor after them.  They are empty where the scalar must end. -/
def plainBlanks (cursor : Cursor) : Lexeme × Bool :=
  let (spaces, after) := cursor.span (· == ' ')
  match after.lineBreak? with
  | none => (⟨spaces, after⟩, false)
  | some (first, after) =>
    if after.atDocumentMark then (⟨[], after⟩, true)
    else
      let (others, atMark) := plainBreaks [] after after.rest.length.succ
      if atMark then (⟨[], others.cursor⟩, true)
      else (⟨fold first others.text, others.cursor⟩, true)

/-- A plain scalar after the characters in `done`, last one first, and the
`blanks` before the cursor.  `atBreak` says whether the cursor has passed a line
break since the last word. -/
def plainFrom (inFlow : Bool) (indent : Int) (done blanks : List Char) (atBreak : Bool)
    (cursor : Cursor) : Nat → Lexeme × Bool
  | 0 => (⟨done.reverse, cursor⟩, atBreak)
  | fuel + 1 =>
    if cursor.at? '#' then (⟨done.reverse, cursor⟩, atBreak)
    else
      let run := plainRun inFlow [] cursor.rest
      if run.isEmpty then (⟨done.reverse, cursor⟩, atBreak)
      else
        let done := run ++ (blanks.reverse ++ done)
        let (next, broken) := plainBlanks (cursor.skip run.length)
        if next.text.isEmpty || (!inFlow && (next.cursor.column : Int) < indent) then
          (⟨done.reverse, next.cursor⟩, broken)
        else plainFrom inFlow indent done next.text broken next.cursor fuel

def plainScalar (inFlow : Bool) (indent : Int) (cursor : Cursor) : Lexeme × Bool :=
  plainFrom inFlow indent [] [] false cursor cursor.rest.length.succ

/-! ### Block scalars -/

inductive Chomping where
  | clip
  | strip
  | keep
  deriving DecidableEq, Repr

def chomping? : Option Char → Option Chomping
  | some '+' => some .keep
  | some '-' => some .strip
  | _ => none

def blockHead (cursor : Cursor) : Option (Chomping × Option Nat × Cursor) :=
  let digitAt := fun cursor : Cursor => (cursor.peek 0).bind Text.digitValue?
  let (chomping, increment, cursor) :=
    match chomping? (cursor.peek 0) with
    | some chomping =>
      match digitAt cursor.next with
      | some digit => (chomping, some digit, cursor.skip 2)
      | none => (chomping, none, cursor.next)
    | none =>
      match digitAt cursor with
      | none => (.clip, none, cursor)
      | some digit =>
        match chomping? (cursor.peek 1) with
        | some chomping => (chomping, some digit, cursor.skip 2)
        | none => (.clip, some digit, cursor.next)
  if increment = some 0 ∨ !endsWord (cursor.peek 0) then none
  else some (chomping, increment, cursor)

/-- The empty lines at the start of a block, last one first, and the widest
indentation among them and the first line. -/
def blockIndent (done : List Char) (widest : Nat) (cursor : Cursor) : Nat → Lexeme × Nat
  | 0 => (⟨done.reverse, cursor⟩, widest)
  | fuel + 1 =>
    match cursor.lineBreak? with
    | some (char, after) => blockIndent (char :: done) widest after fuel
    | none =>
      if cursor.at? ' ' then blockIndent done (max widest cursor.next.column) cursor.next fuel
      else (⟨done.reverse, cursor⟩, widest)

/-- The cursor after at most so many spaces as bring it to the indentation. -/
def indentTo (indent : Nat) (cursor : Cursor) : Cursor :=
  cursor.skip ((cursor.rest.take (indent - cursor.column)).takeWhile (· == ' ')).length

def blockBreaks (indent : Nat) (done : List Char) (cursor : Cursor) : Nat → Lexeme
  | 0 => ⟨done.reverse, cursor⟩
  | fuel + 1 =>
    let cursor := indentTo indent cursor
    match cursor.lineBreak? with
    | some (char, after) => blockBreaks indent (char :: done) after fuel
    | none => ⟨done.reverse, cursor⟩

/-- The lines of a block after the characters in `done`, last one first, and
the empty lines before the cursor. -/
def blockLines (folded : Bool) (chomping : Chomping) (indent : Nat) (done : List Char)
    (empty : List Char) (cursor : Cursor) : Nat → Lexeme
  | 0 => ⟨done.reverse, cursor⟩
  | fuel + 1 =>
    let startsBlank := fun cursor : Cursor => cursor.at? ' ' || cursor.at? '\t'
    let (line, after) := cursor.span fun char => !isBreak char
    let done := line.reverse ++ (empty.reverse ++ done)
    let (first, after) := match after.lineBreak? with
      | some (char, after) => ([char], after)
      | none => ([], after)
    let others := blockBreaks indent [] after after.rest.length.succ
    if others.cursor.column = indent ∧ !others.cursor.rest.isEmpty then
      let joint :=
        if folded ∧ first = ['\n'] ∧ !startsBlank cursor ∧ !startsBlank others.cursor then
          if others.text.isEmpty then [' '] else []
        else first
      blockLines folded chomping indent (joint ++ done) others.text others.cursor fuel
    else
      match chomping with
      | .strip => ⟨done.reverse, others.cursor⟩
      | .clip => ⟨(first ++ done).reverse, others.cursor⟩
      | .keep => ⟨(others.text.reverse ++ (first ++ done)).reverse, others.cursor⟩

def blockScalar (folded : Bool) (parent : Int) (cursor : Cursor) : Option Lexeme := do
  let (chomping, increment, cursor) ← blockHead cursor.next
  let cursor ← cursor.endLine?
  let least := (max (parent + 1) 1).toNat
  let fuel := cursor.rest.length.succ
  let (empty, indent) := match increment with
    | some increment =>
      let indent := least + increment - 1
      (blockBreaks indent [] cursor fuel, indent)
    | none =>
      let (empty, widest) := blockIndent [] 0 cursor fuel
      (empty, max least widest)
  if empty.cursor.column = indent ∧ !empty.cursor.rest.isEmpty then
    return blockLines folded chomping indent [] empty.text empty.cursor fuel
  else
    let text := match chomping with
      | .keep => empty.text
      | _ => []
    return ⟨text, empty.cursor⟩

end Scep.Yaml
