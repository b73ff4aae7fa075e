import Scep.Calendar
import Scep.Certificate.Name

/-!
Certificates: which octets encode one, and what is read of it.
-/

namespace Scep

structure Certificate where
  der : Octets
  version : Nat
  subject : List (List (List Nat × Der.Element))
  deriving DecidableEq, Repr

namespace Certificate

open Der (Element)

/-! ### Parts -/

def isWhole (content : Octets) : Bool :=
  match content with
  | [] => false
  | [_] => true
  | first :: second :: _ =>
    !((first == 0 && second < 128) || (first == 255 && 128 ≤ second))

def isWholeElement (element : Element) : Bool :=
  element.identifier == Der.whole && isWhole element.content

def isBits : Octets → Bool
  | [] => false
  | unused :: octets =>
    match octets.getLast? with
    | none => unused == 0
    | some last => unused < 8 && last.toNat % (Nat.pow 2 unused.toNat) == 0

def isAlgorithm (element : Element) : Bool :=
  match element.parts? Der.sequence with
  | some (name :: parameters) =>
    name.identifier == Der.objectName && (objectNumbers? name.content).isSome &&
      parameters.length ≤ 1
  | _ => false

def pairs? : List Char → Option (List Nat)
  | [] => some []
  | first :: second :: rest => do
    let tens ← Text.digitValue? first
    let ones ← Text.digitValue? second
    return (tens * 10 + ones) :: (← pairs? rest)
  | _ => none

def isMoment (year : Nat) (rest : List Nat) : Bool :=
  match rest with
  | [month, day, hour, minute, second] =>
    1 ≤ month && month ≤ 12 && 1 ≤ day && day ≤ Calendar.days year month &&
      hour ≤ 23 && minute ≤ 59 && second ≤ 59
  | _ => false

def isTime (element : Element) : Bool :=
  let text := element.content.map fun octet => Char.ofNat octet.toNat
  text.getLast? == some 'Z' &&
    match pairs? text.dropLast with
    | some (first :: rest) =>
      if element.identifier == Der.shortTime then
        isMoment (if 50 ≤ first then 1900 + first else 2000 + first) rest
      else
        element.identifier == Der.longTime &&
          match rest with
          | second :: rest => isMoment (first * 100 + second) rest
          | [] => false
    | _ => false

def isValidity (element : Element) : Bool :=
  match element.parts? Der.sequence with
  | some [start, stop] => isTime start && isTime stop
  | _ => false

def isKey (element : Element) : Bool :=
  match element.parts? Der.sequence with
  | some [algorithm, bits] =>
    isAlgorithm algorithm && bits.identifier == Der.bitString && isBits bits.content
  | _ => false

/-- Whether an element is an extension.  That one is not critical is left
unsaid. -/
def isExtension (element : Element) : Bool :=
  let isName := fun name : Element =>
    name.identifier == Der.objectName && (objectNumbers? name.content).isSome
  match element.parts? Der.sequence with
  | some [name, value] => isName name && value.identifier == Der.octetString
  | some [name, critical, value] =>
    isName name && critical.identifier == Der.boolean && critical.content == [255] &&
      value.identifier == Der.octetString
  | _ => false

def isExtensions (content : Octets) : Bool :=
  match (Der.only? Der.sequence content).bind (Element.parts? · Der.sequence) with
  | some extensions => extensions.all isExtension
  | none => false

/-- Whether the elements after the key are what may stand there, each at most
once and in this order: marks of the issuer and of the owner, and extensions. -/
def isTail (elements : List Element) : Bool :=
  let dropMark := fun (number : Nat) (elements : List Element) =>
    match elements with
    | element :: rest =>
      if element.identifier == Der.numbered false number && isBits element.content then rest
      else elements
    | [] => []
  match dropMark 2 (dropMark 1 elements) with
  | [] => true
  | [element] => element.identifier == Der.numbered true 3 && isExtensions element.content
  | _ => false

/-- The number of a version, in one octet.  The first version is left unsaid. -/
def version? (element : Element) : Option Nat := do
  let version ← Der.only? Der.whole element.content
  let number := Der.valueOf version.content
  if isWhole version.content && version.content.head?.any (· < 128) && number < 256 && number ≠ 0
  then some number
  else none

def splitVersion? (elements : List Element) : Option (Nat × List Element) := do
  let first ← elements.head?
  if first.identifier == Der.numbered true 0 then
    let version ← version? first
    return (version, elements.tail)
  else return (0, elements)

/-- The version and the name of the owner in the signed part of a certificate, if all
of the part is well formed. -/
def signedPart? (element : Element) : Option (Nat × List (List (List Nat × Element))) := do
  let (version, elements) ← splitVersion? (← element.parts? Der.sequence)
  match elements with
  | serial :: algorithm :: issuer :: validity :: subject :: key :: rest =>
    let _ ← nameParts? issuer
    let name ← nameParts? subject
    if isWholeElement serial && isAlgorithm algorithm && isValidity validity && isKey key &&
        isTail rest then some (version, name)
    else none
  | _ => none

def ofDer? (octets : Octets) : Option Certificate := do
  let whole ← Der.only? Der.sequence octets
  match ← whole.parts? Der.sequence with
  | [signed, algorithm, signature] =>
    let (version, subject) ← signedPart? signed
    if isAlgorithm algorithm && signature.identifier == Der.bitString && isBits signature.content
    then some ⟨octets, version, subject⟩
    else none
  | _ => none

end Certificate

end Scep
