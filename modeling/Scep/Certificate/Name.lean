import Scep.Certificate.Der
import Scep.Text.Utf8

/-!
Distinguished names, and the text in which they are shown: the last component
first, with short names for the common kinds of attributes.
-/

namespace Scep.Certificate

open Der (Element)

inductive AttributeValue where
  | text (text : List Char)
  | octets (octets : Octets)
  deriving DecidableEq, Repr

structure Attribute where
  kind : List Nat
  value : AttributeValue
  deriving DecidableEq, Repr

/-- A name: its components from the widest one on, each of which is a set of
attributes. -/
abbrev Name := List (List Attribute)

/-! ### Reading -/

def numbersFrom (value : Nat) (begun : Bool) : Octets → Option (List Nat)
  | [] => if begun then none else some []
  | octet :: rest =>
    if !begun && octet.toNat = 128 then none
    else if octet.toNat < 128 then
      (numbersFrom 0 false rest).map ((value * 128 + octet.toNat) :: ·)
    else numbersFrom (value * 128 + (octet.toNat - 128)) true rest

/-- The numbers of an object name.  The first two travel as one. -/
def objectNumbers? (octets : Octets) : Option (List Nat) :=
  match numbersFrom 0 false octets with
  | some (first :: rest) =>
    let top := min (first / 40) 2
    some (top :: (first - top * 40) :: rest)
  | _ => none

def pairedText? : Octets → Option (List Char)
  | [] => some []
  | a :: b :: rest =>
    let unit := a.toNat * 256 + b.toNat
    if 0xD800 ≤ unit ∧ unit < 0xDC00 then
      match rest with
      | c :: d :: rest =>
        let low := c.toNat * 256 + d.toNat
        if 0xDC00 ≤ low ∧ low < 0xE000 then
          (pairedText? rest).map
            (Char.ofNat (0x10000 + (unit - 0xD800) * 1024 + (low - 0xDC00)) :: ·)
        else none
      | _ => none
    else if 0xDC00 ≤ unit ∧ unit < 0xE000 then none
    else (pairedText? rest).map (Char.ofNat unit :: ·)
  | _ => none

def wideText? : Octets → Option (List Char)
  | [] => some []
  | a :: b :: c :: d :: rest =>
    let value := Der.valueOf [a, b, c, d]
    if Nat.isValidChar value then (wideText? rest).map (Char.ofNat value :: ·) else none
  | _ => none

def attributeValue? (element : Element) : Option AttributeValue :=
  if element.identifier = Der.bitString then some (.octets element.content)
  else if element.identifier = [30] then (pairedText? element.content).map .text
  else if element.identifier = [28] then (wideText? element.content).map .text
  else (Text.Utf8.decode element.content).toOption.map .text

def attributeParts? (element : Element) : Option (List Nat × Element) := do
  match ← element.parts? Der.sequence with
  | [kind, value] =>
    if kind.identifier == Der.objectName then some (← objectNumbers? kind.content, value) else none
  | _ => none

def nameParts? (element : Element) : Option (List (List (List Nat × Element))) := do
  let components ← element.parts? Der.sequence
  components.mapM fun component => do
    let attributes ← component.parts? Der.set
    if Der.inOrder attributes then attributes.mapM attributeParts? else none

def Name.ofParts? (parts : List (List (List Nat × Element))) : Option Name :=
  parts.mapM fun component =>
    component.mapM fun (kind, value) => (attributeValue? value).map fun value => ⟨kind, value⟩

/-! ### Writing -/

def shortNames : List (List Nat × String) := [
  ([2, 5, 4, 3], "CN"), ([2, 5, 4, 7], "L"), ([2, 5, 4, 8], "ST"), ([2, 5, 4, 10], "O"),
  ([2, 5, 4, 11], "OU"), ([2, 5, 4, 6], "C"), ([2, 5, 4, 9], "STREET"),
  ([0, 9, 2342, 19200300, 100, 1, 25], "DC"), ([0, 9, 2342, 19200300, 100, 1, 1], "UID")]

def kindText (kind : List Nat) : List Char :=
  match shortNames.find? fun entry => entry.1 == kind with
  | some (_, name) => name.toList
  | none => ['.'].intercalate (kind.map fun number => (toString number).toList)

def escapedChar (char : Char) : List Char :=
  if ['\\', '\x22', '+', ',', ';', '<', '>'].contains char then ['\\', char]
  else if char = '\x00' then ['\\', '0', '0']
  else [char]

/-- A text as it stands inside a name: a number sign or a space at its start
and a space at its end follow a backslash too. -/
def escaped (text : List Char) : List Char :=
  let inner := text.flatMap escapedChar
  let front :=
    match inner with
    | '#' :: _ => '\\' :: inner
    | ' ' :: _ :: _ => '\\' :: inner
    | _ => inner
  if front.getLast? = some ' ' then front.dropLast ++ ['\\', ' '] else front

def AttributeValue.render : AttributeValue → List Char
  | .text content => escaped content
  | .octets content =>
    if content.isEmpty then []
    else '#' :: content.flatMap fun octet => Text.hexFixed 2 octet.toNat

def Attribute.render (part : Attribute) : List Char :=
  kindText part.kind ++ '=' :: part.value.render

def Name.render (name : Name) : List Char :=
  [','].intercalate (name.reverse.map fun component =>
    ['+'].intercalate (component.map Attribute.render))

end Scep.Certificate
