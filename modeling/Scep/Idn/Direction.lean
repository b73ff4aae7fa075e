import Scep.Idn.Flaw
import Scep.Idn.Table.Codepoint
import Scep.Idn.Table.Direction

/-!
The rule that keeps labels readable in texts of mixed direction.  It binds
only labels that hold a character written from right to left.
-/

namespace Scep.Idn

inductive Direction where
  | leftToRight
  | rightToLeft
  | arabicLetter
  | arabicNumber
  | europeanNumber
  | nonspacingMark
  | neutral
  | other
  deriving DecidableEq, Repr

def direction? (char : Char) : Option Direction :=
  let codepoint := char.toNat
  if Table.holds Table.leftToRight codepoint then some .leftToRight
  else if Table.holds Table.rightToLeft codepoint then some .rightToLeft
  else if Table.holds Table.arabicLetter codepoint then some .arabicLetter
  else if Table.holds Table.arabicNumber codepoint then some .arabicNumber
  else if Table.holds Table.europeanNumber codepoint then some .europeanNumber
  else if Table.holds Table.nonspacingMark codepoint then some .nonspacingMark
  else if Table.holds Table.europeanSeparator codepoint ||
      Table.holds Table.commonSeparator codepoint ||
      Table.holds Table.europeanTerminator codepoint ||
      Table.holds Table.otherNeutral codepoint ||
      Table.holds Table.boundaryNeutral codepoint then some .neutral
  else if Table.holds Table.separatorOrEmbedding codepoint then some .other
  else none

def directions (label : List Char) : Except Flaw (List Direction) :=
  match label.findIdx? fun char => (direction? char).isNone with
  | some index => .error (.unknownDirection (String.ofList label) (index + 1))
  | none => .ok (label.filterMap direction?)

/-- Checks the directions of a label from right to left, from `position` on.
`digits` is the kind of digits met so far and `ends` whether the label may end
before `position`. -/
def checkRightToLeft (position : Nat) (digits : Option Direction) (ends : Bool) :
    List Direction → Except Flaw Unit
  | [] => if ends then .ok () else .error .weakEnd
  | direction :: rest =>
    match direction with
    | .leftToRight | .other => .error (.againstRightToLeft position)
    | .nonspacingMark => checkRightToLeft (position + 1) digits ends rest
    | .neutral => checkRightToLeft (position + 1) digits false rest
    | .rightToLeft | .arabicLetter => checkRightToLeft (position + 1) digits true rest
    | number =>
      if digits = none ∨ digits = some number then
        checkRightToLeft (position + 1) (some number) true rest
      else .error .mixedDigits

def checkLeftToRight (position : Nat) (ends : Bool) : List Direction → Except Flaw Unit
  | [] => if ends then .ok () else .error .weakEnd
  | direction :: rest =>
    match direction with
    | .leftToRight | .europeanNumber => checkLeftToRight (position + 1) true rest
    | .nonspacingMark => checkLeftToRight (position + 1) ends rest
    | .neutral => checkLeftToRight (position + 1) false rest
    | _ => .error (.againstLeftToRight position)

def checkDirections (label : List Char) : Except Flaw Unit := do
  let found ← directions label
  if found.any fun direction =>
      direction == .rightToLeft || direction == .arabicLetter || direction == .arabicNumber then
    match found.head? with
    | some .rightToLeft | some .arabicLetter => checkRightToLeft 1 none false found
    | some .leftToRight => checkLeftToRight 1 false found
    | _ => .error (.weakStart (String.ofList label))

end Scep.Idn
