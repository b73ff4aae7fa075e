/-!
The shortest decimal digits that read back as a given binary number.

A finite binary number is `mantissa · 2 ^ exponent`.  All reals closer to it
than to its neighbours read back as it, and so do the two midpoints when the
mantissa is even.  Of the decimal numbers in that interval the one with the
fewest digits is taken, and of those the nearest.
-/

namespace Scep.Number

/-- A positive binary number `mantissa · 2 ^ exponent`; `lowest` says that the
neighbour below is only half as far as the one above. -/
structure Binary where
  mantissa : Nat
  exponent : Int
  lowest : Bool
  deriving DecidableEq, Repr

/-- A positive decimal number `digits · 10 ^ exponent`. -/
structure Decimal where
  digits : Nat
  exponent : Int
  deriving DecidableEq, Repr

namespace Binary

def scaled (quarters : Nat) (exponent : Int) : Nat × Nat :=
  if 2 ≤ exponent then (quarters <<< (exponent - 2).toNat, 1)
  else (quarters, 1 <<< (2 - exponent).toNat)

def value (number : Binary) : Nat × Nat :=
  scaled (4 * number.mantissa) number.exponent

def lower (number : Binary) : Nat × Nat :=
  scaled (4 * number.mantissa - if number.lowest then 1 else 2) number.exponent

def upper (number : Binary) : Nat × Nat :=
  scaled (4 * number.mantissa + 2) number.exponent

def grid (count : Nat) (unit : Int) : Nat × Nat :=
  if 0 ≤ unit then (count * Nat.pow 10 unit.toNat, 1) else (count, Nat.pow 10 (-unit).toNat)

def atMost (strict : Bool) (left right : Nat × Nat) : Bool :=
  if strict then left.1 * right.2 < right.1 * left.2 else left.1 * right.2 ≤ right.1 * left.2

/-- Whether `count · 10 ^ unit` reads back as the number. -/
def readsBack (number : Binary) (count : Nat) (unit : Int) : Bool :=
  let strict := number.mantissa % 2 == 1
  0 < count && atMost strict number.lower (grid count unit) &&
    atMost strict (grid count unit) number.upper

def below (number : Binary) (unit : Int) : Nat :=
  let one := grid 1 unit
  (number.value.1 * one.2) / (number.value.2 * one.1)

/-- Whether the number is nearer to `count + 1` units than to `count`; a tie
goes to the even count. -/
def nearerAbove (number : Binary) (count : Nat) (unit : Int) : Bool :=
  let middle := grid (2 * count + 1) unit
  let doubled := (2 * number.value.1, number.value.2)
  atMost true middle doubled || (atMost false middle doubled && count % 2 == 1)

def onGrid? (number : Binary) (unit : Int) : Option Decimal :=
  let count := number.below unit
  match number.readsBack count unit, number.readsBack (count + 1) unit with
  | true, true => some ⟨if number.nearerAbove count unit then count + 1 else count, unit⟩
  | true, false => some ⟨count, unit⟩
  | false, true => some ⟨count + 1, unit⟩
  | false, false => none

/-- The exponent of the first decimal digit, found by trying powers of ten
upwards from below the least binary number. -/
def leading (number : Binary) : Int :=
  let fits := fun unit : Int => atMost false (grid 1 unit) number.value
  let estimate : Int := (number.exponent + (Nat.log2 number.mantissa : Int)) * 30103 / 100000
  if fits (estimate + 1) then estimate + 1
  else if fits estimate then estimate
  else estimate - 1

/-- The first of the grids of one, two, … seventeen digits with a number that
reads back. -/
def shortestFrom (number : Binary) (unit : Int) : Nat → Decimal
  | 0 => ⟨number.below unit, unit⟩
  | more + 1 =>
    match number.onGrid? unit with
    | some found => found
    | none => shortestFrom number (unit - 1) more

def shortest (number : Binary) : Decimal :=
  number.shortestFrom number.leading 17

end Binary

def Decimal.trim (number : Decimal) : Nat → Decimal
  | 0 => number
  | fuel + 1 =>
    if number.digits ≠ 0 ∧ number.digits % 10 = 0 then
      Decimal.trim ⟨number.digits / 10, number.exponent + 1⟩ fuel
    else number

end Scep.Number
