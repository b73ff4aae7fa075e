import Scep.Text.Quoted

/-!
Why a host name is not one that can be looked up.
-/

namespace Scep.Idn

/-- What is wrong with a host name or one of its labels.  Positions count from
one. -/
inductive Flaw where
  | emptyDomain
  | emptyLabel
  | labelTooLong
  | domainTooLong
  | notComposed
  | reservedHyphens
  | outerHyphen
  | initialMark
  | joiner (codepoint position : Nat) (label : String)
  | outOfContext (codepoint position : Nat) (label : String)
  | notAllowed (codepoint position : Nat) (label : String)
  | unknownDirection (label : String) (position : Nat)
  | weakStart (label : String)
  | againstRightToLeft (position : Nat)
  | againstLeftToRight (position : Nat)
  | mixedDigits
  | weakEnd
  | nothingEncoded
  | finalHyphen
  | undecodable
  deriving DecidableEq, Repr

namespace Flaw

def codepointText (codepoint : Nat) : String :=
  let width := if codepoint < 0x10000 then 4 else if codepoint < 0x100000 then 5 else 6
  "U+" ++ String.ofList ((Text.hexFixed width codepoint).map Char.toUpper)

def message : Flaw → String
  | emptyDomain => "Empty domain"
  | emptyLabel => "Empty Label"
  | labelTooLong => "Label too long"
  | domainTooLong => "Domain too long"
  | notComposed => "Label must be in Normalization Form C"
  | reservedHyphens => "Label has disallowed hyphens in 3rd and 4th position"
  | outerHyphen => "Label must not start or end with a hyphen"
  | initialMark => "Label begins with an illegal combining character"
  | joiner codepoint position label =>
    "Joiner " ++ codepointText codepoint ++ " not allowed at position " ++ toString position ++
      " in " ++ Text.quoted label
  | outOfContext codepoint position label =>
    "Codepoint " ++ codepointText codepoint ++ " not allowed at position " ++
      toString position ++ " in " ++ Text.quoted label
  | notAllowed codepoint position label =>
    "Codepoint " ++ codepointText codepoint ++ " at position " ++ toString position ++ " of " ++
      Text.quoted label ++ " not allowed"
  | unknownDirection label position =>
    "Unknown directionality in label " ++ Text.quoted label ++ " at position " ++
      toString position
  | weakStart label =>
    "First codepoint in label " ++ Text.quoted label ++ " must be directionality L, R or AL"
  | againstRightToLeft position =>
    "Invalid direction for codepoint at position " ++ toString position ++
      " in a right-to-left label"
  | againstLeftToRight position =>
    "Invalid direction for codepoint at position " ++ toString position ++
      " in a left-to-right label"
  | mixedDigits => "Can not mix numeral types in a right-to-left label"
  | weakEnd => "Label ends with illegal codepoint directionality"
  | nothingEncoded => "Malformed A-label, no Punycode eligible content found"
  | finalHyphen => "A-label must not end with a hyphen"
  | undecodable => "Invalid A-label"

def className : Flaw → String
  | joiner .. | outOfContext .. => "InvalidCodepointContext"
  | notAllowed .. => "InvalidCodepoint"
  | unknownDirection .. | weakStart .. | againstRightToLeft .. | againstLeftToRight ..
  | mixedDigits | weakEnd => "IDNABidiError"
  | _ => "IDNAError"

end Flaw

end Scep.Idn
