import Scep.Text.Digit

/-!
Punycode: a label of any characters written with letters, digits and hyphens.

The ASCII characters are written first; all others follow as a series of
distances, each to the next place and character of an insertion.  Distances
are numbers of variable length, whose digits have thresholds that adapt to the
distances met so far.
-/

namespace Scep.Idn.Punycode

def threshold (place bias : Nat) : Nat :=
  if place ≤ bias then 1 else if 26 ≤ place - bias then 26 else place - bias

def figure (digit : Nat) : Char :=
  if digit < 26 then Char.ofNat ('a'.toNat + digit) else Char.ofNat ('0'.toNat + (digit - 26))

def digit? (char : Char) : Option Nat :=
  if 'a' ≤ char ∧ char ≤ 'z' then some (char.toNat - 'a'.toNat)
  else if 'A' ≤ char ∧ char ≤ 'Z' then some (char.toNat - 'A'.toNat)
  else (Text.digitValue? char).map (· + 26)

/-- Scales a distance down and counts the places this takes. -/
def scale (distance places : Nat) : Nat × Nat :=
  if 455 < distance then scale (distance / 35) (places + 36) else (distance, places)
termination_by distance
decreasing_by exact Nat.div_lt_self (by omega) (by omega)

def adapt (distance length : Nat) (isFirst : Bool) : Nat :=
  let damped := if isFirst then distance / 700 else distance / 2
  let (scaled, places) := scale (damped + damped / length) 0
  places + 36 * scaled / (scaled + 38)

/-! ### Writing -/

def digits (bias place distance : Nat) : List Char :=
  let least := threshold place bias
  if distance < least then [figure distance]
  else
    figure (least + (distance - least) % (36 - least)) ::
      digits bias (place + 36) ((distance - least) / (36 - least))
termination_by distance
decreasing_by
  have positive : 1 ≤ threshold place bias := by
    unfold threshold
    split <;> (try split) <;> omega
  have shorter := Nat.div_le_self (distance - threshold place bias) (36 - threshold place bias)
  omega

/-- A writer between two insertions: the distance from the last one, the bias,
how many characters are in place, and what has been written, last first. -/
structure Writer where
  distance : Nat
  bias : Nat
  placed : Nat
  done : List Char

def Writer.pass (basic codepoint : Nat) (writer : Writer) (char : Char) : Writer :=
  if char.toNat < codepoint then { writer with distance := writer.distance + 1 }
  else if char.toNat = codepoint then
    { distance := 0
      bias := adapt writer.distance (writer.placed + 1) (writer.placed == basic)
      placed := writer.placed + 1
      done := (digits writer.bias 36 writer.distance).reverse ++ writer.done }
  else writer

def Writer.insertAll (label : List Char) (basic : Nat) (writer : Writer) (previous : Nat) :
    List Nat → Writer
  | [] => writer
  | codepoint :: rest =>
    let start := { writer with
      distance := writer.distance + (codepoint - previous) * (writer.placed + 1) }
    let passed := label.foldl (Writer.pass basic codepoint) start
    Writer.insertAll label basic { passed with distance := passed.distance + 1 }
      (codepoint + 1) rest

def encode (label : List Char) : List Char :=
  let basic := label.filter fun char => char.toNat < 0x80
  let others := (label.map Char.toNat).filter fun codepoint => 0x80 ≤ codepoint
  let sorted := (others.mergeSort fun left right => left ≤ right).eraseReps
  let writer := Writer.insertAll label basic.length ⟨0, 72, basic.length, []⟩ 0x80 sorted
  (if basic.isEmpty then [] else basic ++ ['-']) ++ writer.done.reverse

/-! ### Reading -/

/-- A reader inside a series of distances.  `value`, `weight` and `place`
belong to the distance being read, `codepoint` and `position` to the last
insertion. -/
structure Reader where
  value : Nat
  weight : Nat
  place : Nat
  bias : Nat
  codepoint : Nat
  position : Nat
  isFirst : Bool
  label : List Char

def Reader.start (basic : List Char) : Reader := ⟨0, 1, 36, 72, 0x80, 0, true, basic⟩

def isScalar (codepoint : Nat) : Bool :=
  codepoint < 0xD800 || (0xDFFF < codepoint && codepoint < 0x110000)

/-- Takes one digit; one below its threshold ends a distance and inserts a
character. -/
def Reader.take (reader : Reader) (digit : Nat) : Option Reader :=
  let least := threshold reader.place reader.bias
  let value := reader.value + digit * reader.weight
  if least ≤ digit then
    some { reader with
      value, weight := reader.weight * (36 - least), place := reader.place + 36 }
  else
    let places := reader.label.length + 1
    let index := reader.position + value
    let codepoint := reader.codepoint + index / places
    let position := index % places
    if isScalar codepoint then
      some {
        value := 0
        weight := 1
        place := 36
        bias := adapt value places reader.isFirst
        codepoint
        position := position + 1
        isFirst := false
        label := reader.label.take position ++ Char.ofNat codepoint :: reader.label.drop position }
    else none

def Reader.read (reader : Reader) : List Char → Option (List Char)
  | [] => if reader.weight = 1 ∧ reader.place = 36 then some reader.label else none
  | char :: rest =>
    match digit? char with
    | none => none
    | some digit =>
      match reader.take digit with
      | none => none
      | some next => next.read rest

/-- The label that a text stands for: what precedes its last hyphen are the
ASCII characters, what follows it are the distances. -/
def decode? (text : List Char) : Option (List Char) :=
  let series := (text.reverse.takeWhile (· ≠ '-')).reverse
  let basic := text.take (text.length - series.length - 1)
  (Reader.start basic).read series

end Scep.Idn.Punycode
