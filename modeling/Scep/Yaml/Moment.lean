import Scep.Calendar
import Scep.Text.Digit

/-!
Dates and times of day.
-/

namespace Scep.Yaml

structure Moment where
  year : Nat
  month : Nat
  day : Nat
  time : Option (Nat × Nat × Nat) := none
  offset : Int := 0
  deriving DecidableEq, Repr

namespace Moment

def digits? (least most : Nat) (text : List Char) : Option (Nat × List Char) :=
  let run := (text.take most).takeWhile fun char => (Text.digitValue? char).isSome
  if run.length < least then none
  else
    some ((run.filterMap Text.digitValue?).foldl (fun value digit => value * 10 + digit) 0,
      text.drop run.length)

def after? (sign : Char) : List Char → Option (List Char)
  | [] => none
  | char :: rest => if char = sign then some rest else none

def offset? (text : List Char) : Option Int :=
  match text.dropWhile fun char => char == ' ' || char == '\t' with
  | [] => if text.isEmpty then some 0 else none
  | ['Z'] => some 0
  | sign :: rest =>
    if sign ≠ '+' ∧ sign ≠ '-' then none
    else do
      let (hours, rest) ← digits? 1 2 rest
      let minutes ←
        match rest with
        | [] => some 0
        | ':' :: rest =>
          match digits? 2 2 rest with
          | some (minutes, []) => some minutes
          | _ => none
        | _ => none
      let total : Int := hours * 60 + minutes
      some (if sign = '-' then -total else total)

def withoutFraction (text : List Char) : List Char :=
  match text with
  | '.' :: rest => rest.dropWhile fun char => (Text.digitValue? char).isSome
  | _ => text

def parse? (text : List Char) : Option Moment := do
  let (year, rest) ← digits? 4 4 text
  let (month, rest) ← digits? 1 2 (← after? '-' rest)
  let (day, rest) ← digits? 1 2 (← after? '-' rest)
  if rest.isEmpty then some { year, month, day }
  else
    let blanks := rest.takeWhile fun char => char == ' ' || char == '\t'
    let rest ←
      match rest with
      | 'T' :: rest | 't' :: rest => some rest
      | _ => if blanks.isEmpty then none else some (rest.drop blanks.length)
    let (hour, rest) ← digits? 1 2 rest
    let (minute, rest) ← digits? 2 2 (← after? ':' rest)
    let (second, rest) ← digits? 2 2 (← after? ':' rest)
    let offset ← offset? (withoutFraction rest)
    some { year, month, day, time := some (hour, minute, second), offset }

/-- Whether a text shows by its form that it is a moment: a date alone has all
its digits. -/
def isShown (text : List Char) : Bool :=
  match parse? text with
  | some { time := none, .. } => text.length == 10
  | some _ => true
  | none => false

/-- A number of minutes as days and seconds, the seconds not being negative. -/
def spanText (minutes : Int) : String :=
  let days := Int.fdiv minutes 1440
  let seconds := Int.fmod minutes 1440 * 60
  let parts := (if days = 0 then [] else ["days=" ++ toString days]) ++
    (if seconds = 0 then [] else ["seconds=" ++ toString seconds])
  "datetime.timedelta(" ++ ", ".intercalate parts ++ ")"

def flaw? (moment : Moment) : Option String :=
  let date :=
    if moment.year = 0 then some "year 0 is out of range"
    else if moment.month = 0 ∨ 12 < moment.month then some "month must be in 1..12"
    else if moment.day = 0 ∨ Calendar.days moment.year moment.month < moment.day then
      some "day is out of range for month"
    else none
  match moment.time with
  | none => date
  | some (hour, minute, second) =>
    if 1440 ≤ moment.offset.natAbs then
      some ("offset must be a timedelta strictly between -timedelta(hours=24) and " ++
        "timedelta(hours=24), not " ++ spanText moment.offset ++ ".")
    else
      date.or <|
        if 23 < hour then some "hour must be in 0..23"
        else if 59 < minute then some "minute must be in 0..59"
        else if 59 < second then some "second must be in 0..59"
        else none

end Moment

end Scep.Yaml
