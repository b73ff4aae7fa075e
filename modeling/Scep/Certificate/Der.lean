import Scep.Operation

/-!
Elements of the distinguished encoding: an identifier, a length in the fewest
octets, and a content.
-/

namespace Scep.Der

structure Element where
  identifier : Octets
  content : Octets
  encoding : Octets
  deriving DecidableEq, Repr

/-! ### Kinds -/

def boolean : Octets := [0x01]
def whole : Octets := [0x02]
def bitString : Octets := [0x03]
def octetString : Octets := [0x04]
def objectName : Octets := [0x06]
def shortTime : Octets := [0x17]
def longTime : Octets := [0x18]
def sequence : Octets := [0x30]
def set : Octets := [0x31]

def numbered (constructed : Bool) (number : Nat) : Octets :=
  [UInt8.ofNat ((if constructed then 0xA0 else 0x80) + number)]

/-! ### Writing -/

def octetsOf (value : Nat) : Octets :=
  if value < 256 then [UInt8.ofNat value]
  else octetsOf (value / 256) ++ [UInt8.ofNat (value % 256)]

def lengthOctets (length : Nat) : Octets :=
  if length < 128 then [UInt8.ofNat length]
  else
    let octets := octetsOf length
    UInt8.ofNat (128 + octets.length) :: octets

def encode (identifier content : Octets) : Octets :=
  identifier ++ lengthOctets content.length ++ content

/-! ### Reading -/

def valueOf (octets : Octets) : Nat :=
  octets.foldl (fun value octet => value * 256 + octet.toNat) 0

/-- The octets of an identifier at the start of a text: one, or one and a
number in pieces of seven bits. -/
def identifier? : Octets → Option Octets
  | [] => none
  | first :: rest =>
    if first.toNat % 32 < 31 then some [first]
    else
      let more := rest.takeWhile fun octet => 128 ≤ octet.toNat
      match rest.drop more.length with
      | [] => none
      | last :: _ =>
        let isLong := more.head?.any fun octet => 128 < octet.toNat
        if isLong || (more.isEmpty && 31 ≤ last.toNat) then some (first :: (more ++ [last]))
        else none

def length? : Octets → Option (Nat × Nat)
  | [] => none
  | first :: rest =>
    if first.toNat < 128 then some (first.toNat, 1)
    else
      let count := first.toNat - 128
      let octets := rest.take count
      let value := valueOf octets
      if count = 0 ∨ 4 < count ∨ octets.length < count ∨ octets.head? = some 0 ∨ value < 128 then none
      else some (value, 1 + count)

def read? (octets : Octets) : Option (Element × Octets) := do
  let identifier ← identifier? octets
  let rest := octets.drop identifier.length
  let (length, taken) ← length? rest
  let content := (rest.drop taken).take length
  if content.length < length then none
  else
    let size := identifier.length + taken + length
    some (⟨identifier, content, octets.take size⟩, octets.drop size)

def readAll? (octets : Octets) : Nat → Option (List Element)
  | 0 => none
  | fuel + 1 =>
    if octets.isEmpty then some []
    else do
      let (first, rest) ← read? octets
      let others ← readAll? rest fuel
      some (first :: others)

def only? (identifier octets : Octets) : Option Element := do
  let (element, rest) ← read? octets
  if rest.isEmpty && element.identifier == identifier then some element else none

def Element.parts? (element : Element) (identifier : Octets) : Option (List Element) :=
  if element.identifier == identifier then
    readAll? element.content element.content.length.succ
  else none

/-! ### Order -/

def precedes : Octets → Octets → Bool
  | [], _ => true
  | _ :: _, [] => false
  | first :: rest, second :: others =>
    first < second || (first == second && precedes rest others)

def inOrder : List Element → Bool
  | [] | [_] => true
  | first :: second :: rest =>
    precedes first.encoding second.encoding && inOrder (second :: rest)

end Scep.Der
