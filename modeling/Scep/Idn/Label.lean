import Scep.Idn.Composed
import Scep.Idn.Direction
import Scep.Idn.Punycode
import Scep.Idn.Table.Joining
import Scep.Text.Blank

/-!
Labels of host names: which are valid, and how one that is not plain ASCII is
encoded.
-/

namespace Scep.Idn

/-! ### Context -/

def joins (tables : List (List (Nat × Nat))) : List Char → Bool
  | [] => false
  | char :: rest =>
    if Table.holds Table.transparent char.toNat then joins tables rest
    else tables.any fun table => Table.holds table char.toNat

/-- Whether a joiner is in place.  `before` is what precedes it, last
character first, and `after` what follows it. -/
def joinerInPlace (codepoint : Nat) (before after : List Char) : Bool :=
  let afterVirama := match before with
    | [] => false
    | previous :: _ => combiningClass previous.toNat == 9
  if codepoint = 0x200C then
    afterVirama ||
      (joins [Table.joinsNext, Table.joinsBoth] before &&
        joins [Table.joinsPrevious, Table.joinsBoth] after)
  else afterVirama

def inContext (codepoint : Nat) (before after label : List Char) : Bool :=
  if codepoint = 0xB7 then before.head? == some 'l' && after.head? == some 'l'
  else if codepoint = 0x375 then
    after.head?.any fun next => Table.holds Table.greek next.toNat
  else if codepoint = 0x5F3 ∨ codepoint = 0x5F4 then
    before.head?.any fun previous => Table.holds Table.hebrew previous.toNat
  else if codepoint = 0x30FB then
    label.any fun char => char.toNat != 0x30FB &&
      (Table.holds Table.hiragana char.toNat || Table.holds Table.katakana char.toNat ||
        Table.holds Table.han char.toNat)
  else if 0x660 ≤ codepoint ∧ codepoint ≤ 0x669 then
    label.all fun char => !(0x6F0 ≤ char.toNat && char.toNat ≤ 0x6F9)
  else if 0x6F0 ≤ codepoint ∧ codepoint ≤ 0x6F9 then
    label.all fun char => !(0x660 ≤ char.toNat && char.toNat ≤ 0x669)
  else false

def checkCodepoints (label before : List Char) : List Char → Except Flaw Unit
  | [] => .ok ()
  | char :: after =>
    let codepoint := char.toNat
    if Table.holds Table.protocolValid codepoint then
      checkCodepoints label (char :: before) after
    else if Table.holds Table.contextJoiner codepoint then
      if joinerInPlace codepoint before after then checkCodepoints label (char :: before) after
      else .error (.joiner codepoint (before.length + 1) (String.ofList label))
    else if Table.holds Table.contextOther codepoint then
      if inContext codepoint before after label then
        checkCodepoints label (char :: before) after
      else .error (.outOfContext codepoint (before.length + 1) (String.ofList label))
    else .error (.notAllowed codepoint (before.length + 1) (String.ofList label))

def checkLabel (label : List Char) : Except Flaw Unit := do
  if label.isEmpty then throw .emptyLabel
  if !isComposed label then throw .notComposed
  if (label.drop 2).take 2 == ['-', '-'] then throw .reservedHyphens
  if label.head? == some '-' || label.getLast? == some '-' then throw .outerHyphen
  if label.head?.any fun char => Table.holds Table.marks char.toNat then throw .initialMark
  checkCodepoints label [] label
  checkDirections label

/-! ### The two forms -/

def encodedMark : List Char := ['x', 'n', '-', '-']

def shownLabel (ascii : List Char) : Except Flaw (List Char) := do
  let small := ascii.map Char.toLower
  if encodedMark.isPrefixOf small then
    let encoded := small.drop 4
    if encoded.isEmpty then throw .nothingEncoded
    if encoded.getLast? == some '-' then throw .finalHyphen
    match Punycode.decode? encoded with
    | none => throw .undecodable
    | some label =>
      checkLabel label
      return label
  else
    checkLabel small
    return small

def encodedLabel (label : List Char) : Except Flaw (List Char) := do
  let encoded ←
    if label.all fun char => char.toNat < 0x80 then do
      let _ ← shownLabel label
      pure label
    else do
      checkLabel label
      pure (encodedMark ++ Punycode.encode label)
  if 63 < encoded.length then throw .labelTooLong
  return encoded

/-! ### Whole names -/

def isDot (char : Char) : Bool :=
  char == '.' || char.toNat == 0x3002 || char.toNat == 0xFF0E || char.toNat == 0xFF61

def labels (name : List Char) : Except Flaw (List (List Char) × Bool) :=
  let pieces := Text.splitOn '.' (name.map fun char => if isDot char then '.' else char)
  if pieces == [[]] then .error .emptyDomain
  else if pieces.getLast? == some [] then .ok (pieces.dropLast, true)
  else .ok (pieces, false)

def joinLabels (labels : List (List Char)) (isRooted : Bool) : List Char :=
  ['.'].intercalate (labels ++ if isRooted then [[]] else [])

def encodedName (name : List Char) : Except Flaw (List Char) := do
  let (parts, isRooted) ← labels name
  let encoded := joinLabels (← parts.mapM encodedLabel) isRooted
  if (if isRooted then 254 else 253) < encoded.length then throw .domainTooLong
  return encoded

def shownName (name : List Char) : Except Flaw (List Char) := do
  let (parts, isRooted) ← labels name
  return joinLabels (← parts.mapM shownLabel) isRooted

end Scep.Idn
