/-!
Base64 as it travels in a query.

Writing uses the alphabet that needs no escaping and pads to whole groups of
four.  Reading takes both alphabets, freely mixed, a space for a plus sign,
and text whose padding is short or missing; every other deviation is a `Flaw`.
-/

namespace Scep.Base64

def letter (value : Nat) : Char :=
  if value < 26 then Char.ofNat ('A'.toNat + value)
  else if value < 52 then Char.ofNat ('a'.toNat + (value - 26))
  else if value < 62 then Char.ofNat ('0'.toNat + (value - 52))
  else if value = 62 then '-'
  else '_'

def unsafeLetter (value : Nat) : Char :=
  if value = 62 then '+' else if value = 63 then '/' else letter value

def value? (char : Char) : Option Nat :=
  if 'A' ≤ char ∧ char ≤ 'Z' then some (char.toNat - 'A'.toNat)
  else if 'a' ≤ char ∧ char ≤ 'z' then some (char.toNat - 'a'.toNat + 26)
  else if '0' ≤ char ∧ char ≤ '9' then some (char.toNat - '0'.toNat + 52)
  else if char = '+' ∨ char = '-' ∨ char = ' ' then some 62
  else if char = '/' ∨ char = '_' then some 63
  else none

/-! ### Writing -/

def encodeOnto (write : Nat → Char) (done : List Char) : List UInt8 → List Char
  | a :: b :: c :: rest =>
    let group := a.toNat * 65536 + b.toNat * 256 + c.toNat
    encodeOnto write
      (write (group % 64) :: write (group / 64 % 64) :: write (group / 4096 % 64) ::
        write (group / 262144) :: done)
      rest
  | [a, b] =>
    let group := a.toNat * 1024 + b.toNat * 4
    '=' :: write (group % 64) :: write (group / 64 % 64) :: write (group / 4096) :: done
  | [a] =>
    let group := a.toNat * 16
    '=' :: '=' :: write (group % 64) :: write (group / 64) :: done
  | [] => done

def encode (octets : List UInt8) : List Char :=
  (encodeOnto letter [] octets).reverse

def encodeStandard (octets : List UInt8) : List Char :=
  (encodeOnto unsafeLetter [] octets).reverse

/-! ### Reading -/

inductive Flaw where
  | leadingPadding
  | excessData
  | foreignCharacter
  | interruptedPadding
  /-- One data character is left over from `count` of them. -/
  | strayCharacter (count : Nat)
  | incompleteGroup
  deriving DecidableEq, Repr

def Flaw.message : Flaw → String
  | .leadingPadding => "Leading padding not allowed"
  | .excessData => "Excess data after padding"
  | .foreignCharacter => "Only base64 data is allowed"
  | .interruptedPadding => "Discontinuous padding not allowed"
  | .strayCharacter count =>
    "Invalid base64-encoded string: number of data characters (" ++ toString count ++
      ") cannot be 1 more than a multiple of 4"
  | .incompleteGroup => "Incorrect padding"

/-- Where a reader stands: `filled` characters of the current group with the
low `bits` of the last one still to be placed, `pads` counted padding
characters, whether padding has begun, how many data characters were read, and
the octets so far, last first. -/
structure Reader where
  filled : Nat
  bits : Nat
  pads : Nat
  padding : Bool
  count : Nat
  done : List UInt8
  deriving DecidableEq, Repr

def Reader.start : Reader := ⟨0, 0, 0, false, 0, []⟩

def Reader.take (reader : Reader) (value : Nat) : Reader :=
  match reader.filled with
  | 0 => { reader with filled := 1, bits := value, pads := 0, count := reader.count + 1 }
  | 1 =>
    { reader with
      filled := 2, bits := value % 16, pads := 0, count := reader.count + 1
      done := UInt8.ofNat (reader.bits * 4 + value / 16) :: reader.done }
  | 2 =>
    { reader with
      filled := 3, bits := value % 4, pads := 0, count := reader.count + 1
      done := UInt8.ofNat (reader.bits * 16 + value / 4) :: reader.done }
  | _ =>
    { reader with
      filled := 0, bits := 0, pads := 0, count := reader.count + 1
      done := UInt8.ofNat (reader.bits * 64 + value) :: reader.done }

def Reader.finish (reader : Reader) : Except Flaw (List UInt8) :=
  if reader.filled = 0 then .ok reader.done.reverse
  else if reader.filled = 1 then .error (.strayCharacter reader.count)
  else .error .incompleteGroup

/-- Reads on.  Padding counts from the third place of a group on; when it
completes the group, nothing may follow. -/
def Reader.read (reader : Reader) : List Char → Except Flaw (List UInt8)
  | [] => reader.finish
  | char :: rest =>
    if char = '=' then
      if 2 ≤ reader.filled then
        if 4 ≤ reader.filled + (reader.pads + 1) then
          if rest.isEmpty then .ok reader.done.reverse else .error .excessData
        else { reader with pads := reader.pads + 1, padding := true }.read rest
      else { reader with padding := true }.read rest
    else
      match value? char with
      | none => .error .foreignCharacter
      | some value =>
        if reader.padding then .error .interruptedPadding
        else (reader.take value).read rest

def filler (text : List Char) : List Char :=
  List.replicate ((4 - text.length % 4) % 4) '='

/-- Reads a text after filling up its padding. -/
def decode (text : List Char) : Except Flaw (List UInt8) :=
  if text.head? = some '=' then .error .leadingPadding
  else Reader.start.read (text ++ filler text)

end Scep.Base64
