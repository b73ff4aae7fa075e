import Scep.Text.Blank
import Scep.Text.Digit

/-!
Numeric addresses in place of host names.
-/

namespace Scep.Url.Address

/-! ### Four octets -/

def isOctet (text : List Char) : Bool :=
  !text.isEmpty && text.all Char.isDigit && text.length ≤ 3 &&
    (text.head? != some '0' || text.length == 1) &&
    text.foldl (fun value char => value * 10 + (char.toNat - '0'.toNat)) 0 < 256

def isVersion4 (text : List Char) : Bool :=
  let octets := Text.splitOn '.' text
  octets.length == 4 && octets.all isOctet

/-- Advances the states of a matcher for four runs of digits with one character
between each two.  State `2 * run` waits for the first digit of a run, state
`2 * run + 1` is inside it. -/
def advance (states : List Nat) (char : Char) : List Nat :=
  ((states.flatMap fun state =>
    (if char.isDigit then [if state % 2 = 0 then state + 1 else state] else []) ++
      if state % 2 = 1 ∧ state < 7 then [state + 1] else [])).eraseDups

/-- Whether a host is written like four numbers with one character between
each two, and so has to be four octets. -/
def looksLikeVersion4 (host : List Char) : Bool :=
  (host.foldl advance [0]).contains 7

/-! ### Eight groups -/

def isGroup (text : List Char) : Bool :=
  !text.isEmpty && text.length ≤ 4 && text.all fun char => (Text.hexValue? char).isSome

/-- Checks the pieces of an address between its colons.  One gap may stand for
a run of groups; an empty piece at either end is part of it. -/
def areGroups (pieces : List (List Char)) : Bool :=
  let inner := pieces.drop 1 |>.dropLast
  match inner.filter List.isEmpty with
  | [] => pieces.length == 8 && pieces.all isGroup
  | [_] =>
    let front := pieces.take (1 + (inner.takeWhile fun piece => !piece.isEmpty).length)
    let back := pieces.drop (front.length + 1)
    let front := if front.head? == some [] then front.drop 1 else front
    let opens := pieces.head? != some [] || front.isEmpty
    let closes := pieces.getLast? != some [] || back.length == 1
    let back := if pieces.getLast? == some [] then back.dropLast else back
    opens && closes && front.length + back.length < 8 && (front ++ back).all isGroup
  | _ => false

/-- Whether a text is an address of eight groups.  The last two may be written
as four octets, and a zone may follow a percent sign. -/
def isVersion6 (text : List Char) : Bool :=
  let address := text.takeWhile (· ≠ '%')
  let zone := text.drop address.length
  let zoneFits := zone.isEmpty || (zone.length != 1 && !(zone.drop 1).contains '%')
  let pieces := Text.splitOn ':' address
  let last := pieces.getLastD []
  let groups :=
    if last.contains '.' then pieces.dropLast ++ [['0'], ['0']] else pieces
  zoneFits && 3 ≤ pieces.length && (!last.contains '.' || isVersion4 last) &&
    groups.length ≤ 9 && areGroups groups

end Scep.Url.Address
