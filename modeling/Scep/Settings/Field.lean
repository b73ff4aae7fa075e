import Scep.Number.Nearest
import Scep.Settings.Issue
import Scep.Text.Lowercase
import Scep.Value

/-!
Checks of single values: a check takes all values that mean what is asked for,
such as numbers written as texts.
-/

namespace Scep.Settings

abbrev Check (α : Type) := Value → Checked α

namespace Check

/-! ### Texts and paths -/

def text : Check String
  | .text value => .fine value
  | _ => .refuse .noText

def path : Check String
  | .text value => .fine (Path.normal value)
  | _ => .refuse .noPath

/-! ### Whole numbers -/

def trim (text : List Char) : List Char :=
  ((text.dropWhile Text.isWhite).reverse.dropWhile Text.isWhite).reverse

def withoutPlus : List Char → Option (List Char)
  | '+' :: '-' :: _ => none
  | '+' :: rest => some rest
  | rest => some rest

/-- What follows the zeros and underscores at the start of a number, the last
of which stays if no digit follows. -/
def afterZeros (last : Char) : List Char → Option (List Char)
  | [] => some [last]
  | char :: rest =>
    if char = '0' ∨ char = '_' then afterZeros char rest
    else if char = '.' then some (last :: char :: rest)
    else if (Text.digitValue? char).isSome then some (char :: rest)
    else none

/-- A number without zeros at its start.  One with a minus stays as it is. -/
def withoutZeros : List Char → Option (List Char)
  | [] => none
  | char :: rest =>
    if char = '0' then afterZeros char rest
    else if char = '-' ∨ (Text.digitValue? char).isSome then some (char :: rest)
    else none

def withoutFraction (text : List Char) : List Char :=
  let whole := text.takeWhile (· ≠ '.')
  if (text.drop (whole.length + 1)).all (· = '0') then whole else text

/-- Whether underscores stand singly and between other characters. -/
def partsDigits : List Char → Bool
  | [] => true
  | ['_'] => false
  | '_' :: '_' :: _ => false
  | _ :: rest => partsDigits rest

def withoutUnderscores (text : List Char) : List Char :=
  if text.head? = some '_' ∨ !partsDigits text then text else text.filter (· ≠ '_')

def plainDigits (digits : List Char) : Option Nat :=
  if digits.isEmpty || (1 < digits.length && digits.head? == some '0') then none
  else
    digits.foldlM (fun value char => (Text.digitValue? char).map fun digit => value * 10 + digit) 0

def wholeOfText (text : List Char) : Checked Int :=
  match (withoutPlus (trim text)).bind withoutZeros with
  | none => .refuse .wholeUnreadable
  | some text =>
    let text := withoutUnderscores (withoutFraction text)
    if 4300 < text.length then .refuse .wholeTooLong
    else
      let value := match text with
        | '-' :: digits => (plainDigits digits).map fun value => -(value : Int)
        | digits => (plainDigits digits).map Int.ofNat
      match value with
      | some value => .fine value
      | none => .refuse .wholeUnreadable

def isWord (value : Int) : Bool :=
  -9223372036854775808 ≤ value && value ≤ 9223372036854775807

def wholeOfReal (number : Float) : Option Int :=
  if number.isFinite && number.floor == number &&
      -9223372036854775808.0 ≤ number && number < 9223372036854775808.0 then
    some number.toInt64.toInt
  else none

def whole : Check Int
  | .whole value => .fine value
  | .flag value => .fine (if value then 1 else 0)
  | .text value => wholeOfText value.toList
  | .real value =>
    if !value.isFinite then .refuse .infinite
    else if value.floor != value then .refuse .fractional
    else match wholeOfReal value with
      | some value => .fine value
      | none => .refuse .wholeTooLong
  | _ => .refuse .noWhole

def wholeWithin (least most : Int) : Check Int := fun value =>
  (whole value).andThen fun value =>
    if value < least then .refuse (.below least)
    else if most < value then .refuse (.above most)
    else .fine value

/-! ### Real numbers -/

def real : Check Float
  | .real value => .fine value
  | .flag value => .fine (if value then 1.0 else 0.0)
  | .whole value =>
    let magnitude := Number.nearest value.natAbs 1
    if magnitude.isFinite then .fine (if value < 0 then -magnitude else magnitude)
    else .refuse .noReal
  | .text value =>
    match (Number.real? (trim value.toList)).or
        (Number.real? (withoutUnderscores value.toList)) with
    | some value => .fine value
    | none => .refuse .realUnreadable
  | _ => .refuse .noReal

def positive : Check Float := fun value =>
  (real value).andThen fun value => if 0.0 < value then .fine value else .refuse .notPositive

/-! ### Choices and collections -/

def optional {α : Type} (check : Check α) : Check (Option α)
  | .null => .fine none
  | value => some <$> check value

def items {α : Type} (check : Check α) (index : Nat) : List Value → Checked (List α)
  | [] => .fine []
  | value :: rest =>
    List.cons <$> (check value).under (.index index) <*> items check (index + 1) rest

def list {α : Type} (check : Check α) : Check (List α)
  | .list values => items check 0 values
  | _ => .refuse .noList

def flagWords : List (String × Bool) :=
  [("0", false), ("off", false), ("f", false), ("false", false), ("n", false), ("no", false),
    ("1", true), ("on", true), ("t", true), ("true", true), ("y", true), ("yes", true)]

def flagOfWhole (value : Int) : Except Issue Bool :=
  if value = 0 then .ok false
  else if value = 1 then .ok true
  else if isWord value then .error .flagUnreadable
  else .error .noFlag

def trust : Check Trust := fun value =>
  let flag : Except Issue Bool := match value with
    | .flag value => .ok value
    | .whole value => flagOfWhole value
    | .real value => match wholeOfReal value with
      | some value => flagOfWhole value
      | none => .error .noFlag
    | _ => .error .noFlag
  match value with
  | .text text =>
    let lower := String.ofList (Text.lower text.toList)
    match flagWords.find? fun word => word.1 == lower with
    | some (_, flag) => .fine (.common flag)
    | none => .fine (.file (Path.normal text))
  | _ =>
    match flag with
    | .ok flag => .fine (.common flag)
    | .error issue => .faulty [⟨[.name "bool"], issue⟩, ⟨[.name "Path"], .noPath⟩]

def level : Check Level
  | .text value =>
    match Level.ofName? value with
    | some level => .fine level
    | none => .refuse .noLevel
  | _ => .refuse .noLevel

/-! ### Rules of single settings -/

/-- A route: an absolute path, of which the slashes at the end are dropped. -/
def route : Check String := fun value =>
  (text value).andThen fun path =>
    let route := (path.toList.reverse.dropWhile (· == '/')).reverse
    if route.head? = some '/' then .fine (String.ofList route) else .refuse (.badRoute path)

def breaksList (token : String) : Bool := token.isEmpty || token.toList.any Text.isBlank

def capabilities : Check (List String) := fun value =>
  (list text value).andThen fun tokens =>
    match tokens.find? breaksList with
    | some token => .refuse (.badCapability token)
    | none => .fine tokens

end Check

end Scep.Settings
