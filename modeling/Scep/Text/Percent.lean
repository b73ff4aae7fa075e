import Scep.Text.Digit
import Scep.Text.Utf8

/-!
Percent escapes: octets of UTF-8 written as `%` and two hexadecimal digits.
-/

namespace Scep.Text.Percent

/-- The escape of an octet, in upper case. -/
def escapeOctet (octet : UInt8) : List Char :=
  ['%', upperHexDigit (octet.toNat / 16), upperHexDigit (octet.toNat % 16)]

def escape (char : Char) : List Char :=
  (String.utf8EncodeChar char).flatMap escapeOctet

def encode (safe : Char → Bool) (text : List Char) : List Char :=
  text.flatMap fun char => if safe char then [char] else escape char

def isUnreserved (char : Char) : Bool :=
  char.isAlphanum || char == '-' || char == '.' || char == '_' || char == '~'

/-- Reads on into a decoder of UTF-8.  A `%` without two digits stands for
itself, and a character outside of ASCII ends whatever octets are pending. -/
def decodeInto (decoder : Utf8.Decoder) : List Char → List Char
  | [] => decoder.finish
  | '%' :: high :: low :: rest =>
    match hexValue? high, hexValue? low with
    | some first, some second =>
      decodeInto (decoder.step (UInt8.ofNat (first * 16 + second))) rest
    | _, _ => decodeInto (decoder.step 0x25) (high :: low :: rest)
  | char :: rest =>
    if char.toNat < 0x80 then decodeInto (decoder.step (UInt8.ofNat char.toNat)) rest
    else decodeInto ⟨char :: decoder.close, none⟩ rest

def decode (text : List Char) : List Char := decodeInto .start text

end Scep.Text.Percent
