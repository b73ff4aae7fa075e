import Scep.Text.Digit

/-!
UTF-8 between characters and octets.

Encoding is total.  Reading comes in two forms over one machine: `decodeLossy`
puts one replacement character in place of every maximal run of octets that
starts a character and does not complete it, and `decode?` stops at the first
such run and says where it is.
-/

namespace Scep.Text.Utf8

def encode (text : List Char) : List UInt8 :=
  text.flatMap String.utf8EncodeChar

def replacement : Char := Char.ofNat 0xFFFD

/-- A character whose first octets have been read: `owed` more are to come,
the next of them between `low` and `high`. -/
structure Pending where
  bits : Nat
  owed : Nat
  low : Nat
  high : Nat
  deriving DecidableEq, Repr

inductive Reading where
  | complete (char : Char)
  | begun (pending : Pending)
  | refused
  deriving DecidableEq, Repr

/-- Reads an octet that stands at the start of a character.  The ranges leave
out overlong forms, surrogates, and everything above the last scalar value. -/
def first (octet : Nat) : Reading :=
  if octet < 0x80 then .complete (Char.ofNat octet)
  else if octet < 0xC2 then .refused
  else if octet < 0xE0 then .begun ⟨octet - 0xC0, 1, 0x80, 0xBF⟩
  else if octet = 0xE0 then .begun ⟨0, 2, 0xA0, 0xBF⟩
  else if octet = 0xED then .begun ⟨0xD, 2, 0x80, 0x9F⟩
  else if octet < 0xF0 then .begun ⟨octet - 0xE0, 2, 0x80, 0xBF⟩
  else if octet = 0xF0 then .begun ⟨0, 3, 0x90, 0xBF⟩
  else if octet < 0xF4 then .begun ⟨octet - 0xF0, 3, 0x80, 0xBF⟩
  else if octet = 0xF4 then .begun ⟨4, 3, 0x80, 0x8F⟩
  else .refused

def Pending.next (pending : Pending) (octet : Nat) : Reading :=
  if pending.low ≤ octet ∧ octet ≤ pending.high then
    let bits := pending.bits * 64 + (octet - 0x80)
    if pending.owed ≤ 1 then .complete (Char.ofNat bits)
    else .begun ⟨bits, pending.owed - 1, 0x80, 0xBF⟩
  else .refused

/-! ### Lossy reading -/

/-- The machine between two octets: the characters read so far, last first. -/
structure Decoder where
  done : List Char
  pending : Option Pending
  deriving DecidableEq, Repr

def Decoder.start : Decoder := ⟨[], none⟩

def Decoder.begin (done : List Char) (octet : Nat) : Decoder :=
  match first octet with
  | .complete char => ⟨char :: done, none⟩
  | .begun pending => ⟨done, some pending⟩
  | .refused => ⟨replacement :: done, none⟩

/-- Takes up one octet.  An octet that cannot continue the pending character
ends it as one replacement, and is then read at the start of the next. -/
def Decoder.step (decoder : Decoder) (octet : UInt8) : Decoder :=
  match decoder.pending with
  | none => Decoder.begin decoder.done octet.toNat
  | some pending =>
    match pending.next octet.toNat with
    | .complete char => ⟨char :: decoder.done, none⟩
    | .begun pending => ⟨decoder.done, some pending⟩
    | .refused => Decoder.begin (replacement :: decoder.done) octet.toNat

def Decoder.close (decoder : Decoder) : List Char :=
  match decoder.pending with
  | none => decoder.done
  | some _ => replacement :: decoder.done

def Decoder.finish (decoder : Decoder) : List Char := decoder.close.reverse

def decodeLossy (octets : List UInt8) : List Char :=
  (octets.foldl Decoder.step Decoder.start).finish

/-! ### Strict reading -/

inductive Flaw where
  | invalidStart (position : Nat) (octet : UInt8)
  /-- The character at `position` breaks off after `count` octets, before one
  that does not belong to it. -/
  | invalidContinuation (position count : Nat) (octet : UInt8)
  | unexpectedEnd (position count : Nat) (octet : UInt8)
  deriving DecidableEq, Repr

def Flaw.place (position count : Nat) (octet : UInt8) : String :=
  if count ≤ 1 then
    "byte 0x" ++ String.ofList (hexFixed 2 octet.toNat) ++ " in position " ++ toString position
  else
    "bytes in position " ++ toString position ++ "-" ++ toString (position + count - 1)

def Flaw.message (flaw : Flaw) : String :=
  let (place, reason) := match flaw with
    | .invalidStart position octet => (Flaw.place position 1 octet, "invalid start byte")
    | .invalidContinuation position count octet =>
      (Flaw.place position count octet, "invalid continuation byte")
    | .unexpectedEnd position count octet =>
      (Flaw.place position count octet, "unexpected end of data")
  "\x27utf-8\x27 codec can\x27t decode " ++ place ++ ": " ++ reason

/-- The machine of `first` and `Pending.next` with positions: `begun` is where
the pending character starts and its first octet. -/
def decodeFrom (position : Nat) (done : List Char) (begun : Nat × UInt8)
    (pending : Option Pending) : List UInt8 → Except Flaw (List Char)
  | [] =>
    match pending with
    | none => .ok done.reverse
    | some _ => .error (.unexpectedEnd begun.1 (position - begun.1) begun.2)
  | octet :: rest =>
    match pending with
    | none =>
      match first octet.toNat with
      | .complete char => decodeFrom (position + 1) (char :: done) begun none rest
      | .begun pending =>
        decodeFrom (position + 1) done (position, octet) (some pending) rest
      | .refused => .error (.invalidStart position octet)
    | some pending =>
      match pending.next octet.toNat with
      | .complete char => decodeFrom (position + 1) (char :: done) begun none rest
      | .begun pending => decodeFrom (position + 1) done begun (some pending) rest
      | .refused =>
        .error (.invalidContinuation begun.1 (position - begun.1) begun.2)

def decode (octets : List UInt8) : Except Flaw (List Char) :=
  decodeFrom 0 [] (0, 0) none octets

end Scep.Text.Utf8
