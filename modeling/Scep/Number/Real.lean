import Scep.Number.Shortest

/-!
Real numbers in messages and settings: binary numbers of double precision,
written with the fewest digits that read back.
-/

namespace Scep.Number

inductive Real where
  | notANumber
  | infinite (negative : Bool)
  | finite (negative : Bool) (magnitude : Option Binary)
  deriving DecidableEq, Repr

def Real.ofFloat (number : Float) : Real :=
  let bits := number.toBits.toNat
  let negative := bits / Nat.pow 2 63 == 1
  let exponent := bits / Nat.pow 2 52 % 2048
  let fraction := bits % Nat.pow 2 52
  if exponent = 2047 then
    if fraction = 0 then .infinite negative else .notANumber
  else if exponent = 0 then
    if fraction = 0 then .finite negative none
    else .finite negative (some ⟨fraction, -1074, false⟩)
  else
    .finite negative
      (some ⟨fraction + Nat.pow 2 52, (exponent : Int) - 1075, fraction == 0 && exponent != 1⟩)

/-- The digits of a decimal number, written out when the first one stands
between the sixteenth place before the point and the fourth after it, and with
an exponent of at least two digits elsewhere. -/
def Decimal.text (number : Decimal) : String :=
  let digits := (Nat.toDigits 10 number.digits)
  let point : Int := digits.length + number.exponent
  if -4 < point ∧ point ≤ 16 then
    if point ≤ 0 then
      String.ofList ("0.".toList ++ List.replicate (-point).toNat '0' ++ digits)
    else if (digits.length : Int) ≤ point then
      String.ofList (digits ++ List.replicate (point - digits.length).toNat '0' ++ ".0".toList)
    else
      String.ofList (digits.take point.toNat ++ '.' :: digits.drop point.toNat)
  else
    let power := point - 1
    let shown := Nat.toDigits 10 power.natAbs
    let padded := if shown.length < 2 then '0' :: shown else shown
    let sign := if power < 0 then '-' else '+'
    let mantissa := match digits with
      | [] => []
      | [digit] => [digit]
      | digit :: rest => digit :: '.' :: rest
    String.ofList (mantissa ++ 'e' :: sign :: padded)

def Real.text : Real → String
  | .notANumber => "nan"
  | .infinite negative => if negative then "-inf" else "inf"
  | .finite negative none => if negative then "-0.0" else "0.0"
  | .finite negative (some magnitude) =>
    (if negative then "-" else "") ++ (magnitude.shortest.trim 20).text

def realText (number : Float) : String := (Real.ofFloat number).text

def wholeText (number : Int) : String :=
  (if number < 0 then "-" else "") ++ String.ofList (Nat.toDigits 10 number.natAbs)

end Scep.Number
