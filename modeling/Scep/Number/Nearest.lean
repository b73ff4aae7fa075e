import Scep.Number.Shortest
import Scep.Text.Digit

/-!
The binary number nearest to a decimal one.

The quotient of two naturals is cut to the 53 bits that a number holds, or to
fewer near zero, where all numbers are multiples of the least one.  What is cut
off decides the rounding; a half goes to the even neighbour.
-/

namespace Scep.Number

def infinityBits : Nat := 0x7FF0000000000000

/-- The quotient of two fractions' terms after scaling by a power of two,
rounded to a whole number, a half going to the even one. -/
def roundQuotient (numerator denominator : Nat) : Nat :=
  let quotient := numerator / denominator
  let rest := 2 * (numerator % denominator)
  if denominator < rest || (rest == denominator && quotient % 2 == 1) then quotient + 1
  else quotient

def inUnits (numerator denominator : Nat) (unit : Int) : Nat × Nat :=
  if 0 ≤ unit then (numerator, denominator <<< unit.toNat)
  else (numerator <<< (-unit).toNat, denominator)

def lastPlace (numerator denominator : Nat) : Int :=
  let estimate : Int := (Nat.log2 numerator : Int) - Nat.log2 denominator
  let unit := max (estimate - 53) (-1074)
  let (scaled, divisor) := inUnits numerator denominator unit
  if 9007199254740992 ≤ scaled / divisor then unit + 1 else unit

/-- The number nearest to a quotient.  A mantissa that is rounded up to the
next power of two carries into the exponent, whose bits stand above it. -/
def nearest (numerator denominator : Nat) : Float :=
  if numerator = 0 then 0.0
  else
    let unit := lastPlace numerator denominator
    let (scaled, divisor) := inUnits numerator denominator unit
    let bits := (unit + 1074).toNat * 4503599627370496 + roundQuotient scaled divisor
    Float.ofBits (UInt64.ofNat (min bits infinityBits))

def Decimal.nearest (number : Decimal) : Float :=
  if number.digits = 0 then 0.0
  else if 400 < number.exponent then Float.ofBits (UInt64.ofNat infinityBits)
  else if number.exponent < -(400 + Nat.log2 number.digits : Int) then 0.0
  else
    let (numerator, denominator) := Binary.grid number.digits number.exponent
    Number.nearest numerator denominator

def leadingDigits (value : Nat) : List Char → Nat × List Char
  | [] => (value, [])
  | char :: rest =>
    match Text.digitValue? char with
    | some digit => leadingDigits (value * 10 + digit) rest
    | none => (value, char :: rest)

def exponent? : List Char → Option Int
  | [] => some 0
  | letter :: rest =>
    if letter ≠ 'e' ∧ letter ≠ 'E' then none
    else
      let (negative, digits) := match rest with
        | '-' :: digits => (true, digits)
        | '+' :: digits => (false, digits)
        | digits => (false, digits)
      match leadingDigits 0 digits with
      | (value, []) =>
        if digits.isEmpty then none else some (if negative then -(value : Int) else value)
      | _ => none

/-- A decimal number without a sign: digits with a point before, between or
after them or with none, and an exponent or none. -/
def decimal? (text : List Char) : Option Decimal :=
  let (whole, rest) := leadingDigits 0 text
  match rest with
  | '.' :: fraction =>
    let (digits, tail) := leadingDigits whole fraction
    let places := fraction.length - tail.length
    if text.length - rest.length + places = 0 then none
    else (exponent? tail).map fun exponent => ⟨digits, exponent - places⟩
  | _ =>
    if text.length = rest.length then none
    else (exponent? rest).map fun exponent => ⟨whole, exponent⟩

def real? (text : List Char) : Option Float :=
  let (negative, rest) := match text with
    | '-' :: rest => (true, rest)
    | '+' :: rest => (false, rest)
    | rest => (false, rest)
  let lower := rest.map Char.toLower
  let magnitude :=
    if lower = "inf".toList ∨ lower = "infinity".toList then
      some (Float.ofBits (UInt64.ofNat infinityBits))
    else if lower = "nan".toList then some (0.0 / 0.0)
    else (decimal? rest).map Decimal.nearest
  magnitude.map fun magnitude => if negative then -magnitude else magnitude

end Scep.Number
