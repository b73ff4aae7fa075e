import Scep.Text.Blank
import Scep.Text.Digit

/-!
Whole numbers as people write them: blanks around, a sign, digits of any
script, and single underscores between digits.
-/

namespace Scep.Number

def digitLimit : Nat := 4300

def digitIn? (base : Nat) (char : Char) : Option Nat :=
  ((Text.decimalValue? char).or (Text.hexValue? char)).filter (· < base)

/-- The value of a run of digits, after those that made `value`, of which there
were `count`.  `afterDigit` says whether an underscore may come next. -/
def wholeDigits (base value count : Nat) (afterDigit : Bool) : List Char → Option Nat
  | [] => if afterDigit && (base != 10 || count ≤ digitLimit) then some value else none
  | char :: rest =>
    if char = '_' then
      if afterDigit then wholeDigits base value count false rest else none
    else
      match digitIn? base char with
      | some digit => wholeDigits base (value * base + digit) (count + 1) true rest
      | none => none

def withoutBase (base : Nat) : List Char → List Char
  | '0' :: letter :: rest =>
    if (base = 16 ∧ (letter = 'x' ∨ letter = 'X')) ∨ (base = 8 ∧ (letter = 'o' ∨ letter = 'O')) ∨
        (base = 2 ∧ (letter = 'b' ∨ letter = 'B')) then rest
    else '0' :: letter :: rest
  | rest => rest

def wholeIn? (base : Nat) (text : List Char) : Option Int :=
  let digits := fun rest => wholeDigits base 0 0 false (withoutBase base rest)
  match Text.strip text with
  | '+' :: rest => (digits rest).map Int.ofNat
  | '-' :: rest => (digits rest).map fun value => -(value : Int)
  | rest => (digits rest).map Int.ofNat

def whole? (text : List Char) : Option Int := wholeIn? 10 text

end Scep.Number
