import Scep.Text.Lowercase
import Scep.Text.Quoted
import Scep.Number.Nearest
import Scep.Number.Whole
import Scep.Fault
import Scep.Value
import Scep.Yaml.Moment

/-!
What a scalar stands for.

An untyped scalar shows its kind by its form, and a tagged one by its tag.  The
value is then read from the text by the rules of the kind, which for a tagged
scalar may fail.
-/

namespace Scep.Yaml

inductive Kind where
  | null
  | flag
  | whole
  | real
  | moment
  | text
  | binary
  | merge
  | standing
  | sequence
  | mapping
  | keys
  | pairs
  deriving DecidableEq, Repr

inductive Flaw where
  | malformed
  | unreadable (kind : PlainError) (message : String)
  deriving DecidableEq, Repr

/-! ### Kinds by form -/

def flagWords : List (String × Bool) :=
  [("yes", true), ("no", false), ("true", true), ("false", false), ("on", true), ("off", false)]

def spellings (word : String) : List (List Char) :=
  let letters := word.toList
  [letters, (letters.take 1).map Char.toUpper ++ letters.drop 1, letters.map Char.toUpper]

def isRun (kind : Char → Bool) (text : List Char) : Bool := !text.isEmpty && text.all kind

def unsigned : List Char → List Char
  | '+' :: rest | '-' :: rest => rest
  | rest => rest

def isDigitBelow (limit : Nat) (char : Char) : Bool :=
  char == '_' || (Text.digitValue? char).any (· < limit)

def isSixtieth (text : List Char) : Bool :=
  match text.map Text.digitValue? with
  | [some _] => true
  | [some tens, some _] => tens < 6
  | _ => false

/-- Whether a text has the form of a whole number: in tens, eights, sixteens or
twos, or as parts of sixty. -/
def isWholeForm (text : List Char) : Bool :=
  match unsigned text with
  | ['0'] => true
  | '0' :: 'b' :: digits => isRun (isDigitBelow 2) digits
  | '0' :: 'x' :: digits => isRun (fun char => char == '_' || (Text.hexValue? char).isSome) digits
  | '0' :: digits => isRun (isDigitBelow 8) digits
  | first :: rest =>
    (Text.digitValue? first).isSome &&
      match Text.splitOn ':' rest with
      | [] => false
      | digits :: parts => digits.all (isDigitBelow 10) && parts.all isSixtieth
  | [] => false

def isSignedExponent : List Char → Bool
  | [] => true
  | letter :: sign :: digits =>
    (letter == 'e' || letter == 'E') && (sign == '+' || sign == '-') &&
      isRun (fun char => (Text.digitValue? char).isSome) digits
  | _ => false

def isRealForm (text : List Char) : Bool :=
  let isPoint := fun char : Char => char == '.'
  let startsDigit := fun text : List Char => text.head?.any fun char =>
    (Text.digitValue? char).isSome
  let rest := unsigned text
  let lead := rest.takeWhile fun char => !isPoint char
  match rest.drop lead.length with
  | [] => false
  | _ :: fraction =>
    if lead.isEmpty then
      (spellings "inf").contains fraction ||
        (rest.length == text.length &&
          (["nan".toList, "NaN".toList, "NAN".toList].contains fraction ||
            (startsDigit fraction && isSignedExponent (fraction.dropWhile (isDigitBelow 10)))))
    else
      match Text.splitOn ':' lead with
      | [digits] =>
        startsDigit digits && digits.all (isDigitBelow 10) &&
          isSignedExponent (fraction.dropWhile (isDigitBelow 10))
      | digits :: parts =>
        startsDigit digits && digits.all (isDigitBelow 10) && parts.all isSixtieth &&
          fraction.all (isDigitBelow 10)
      | [] => false

def Kind.ofText (text : List Char) : Kind :=
  if flagWords.any fun word => (spellings word.1).contains text then flag
  else if isRealForm text then real
  else if isWholeForm text then whole
  else if text = ['<', '<'] then merge
  else if text = [] ∨ text = ['~'] ∨ (spellings "null").contains text then null
  else if Moment.isShown text then moment
  else if text = ['='] then standing
  else Kind.text

def Kind.names : List (String × Kind) :=
  [("null", null), ("bool", flag), ("int", whole), ("float", real), ("timestamp", moment),
    ("str", text), ("binary", binary), ("merge", merge), ("value", standing), ("seq", sequence),
    ("map", mapping), ("set", keys), ("omap", pairs), ("pairs", pairs)]

def Kind.ofTag? (tag : List Char) : Option Kind :=
  (names.find? fun entry => ("tag:yaml.org,2002:" ++ entry.1).toList == tag).map Prod.snd

/-! ### Values by kind -/

def shownNumber (text : List Char) : String :=
  String.ofList ((Text.quote text).take 200)

def wholeIn (base : Nat) (text : List Char) : Except Flaw Int :=
  match Number.wholeIn? base text with
  | some value => .ok value
  | none =>
    let count := (text.filter fun char => (Text.decimalValue? char).isSome).length
    if base = 10 ∧ Number.digitLimit < count ∧ text.all (fun char => (Text.decimalValue? char).isSome)
    then
      .error (.unreadable .value ("Exceeds the limit (4300 digits) for integer string " ++
        "conversion: value has " ++ toString count ++
        " digits; use sys.set_int_max_str_digits() to increase the limit"))
    else
      .error (.unreadable .value ("invalid literal for int() with base " ++ toString base ++
        ": " ++ shownNumber text))

def realOf (text : List Char) : Except Flaw Float :=
  let ascii := (Text.strip text).map fun char =>
    ((Text.decimalValue? char).map Text.hexDigit).getD char
  match Number.real? ascii with
  | some value => .ok value
  | none =>
    .error (.unreadable .value ("could not convert string to float: " ++ Text.quoted (String.ofList text)))

def signed (text : List Char) : Except Flaw (Bool × List Char) :=
  match text.filter (· ≠ '_') with
  | [] => .error (.unreadable .index "string index out of range")
  | '-' :: rest => .ok (true, rest)
  | '+' :: rest => .ok (false, rest)
  | rest => .ok (false, rest)

def readWhole (text : List Char) : Except Flaw Int := do
  let (negative, rest) ← signed text
  let value ←
    match rest with
    | ['0'] => .ok 0
    | '0' :: 'b' :: digits => wholeIn 2 digits
    | '0' :: 'x' :: digits => wholeIn 16 digits
    | '0' :: _ => wholeIn 8 rest
    | [] => .error (.unreadable .index "string index out of range")
    | _ =>
      if rest.contains ':' then do
        let parts ← (Text.splitOn ':' rest).mapM (wholeIn 10)
        .ok (parts.foldl (fun value part => value * 60 + part) 0)
      else wholeIn 10 rest
  return if negative then -value else value

/-- The value of a number with a point.  Parts of sixty are added up from the
last one. -/
def readReal (text : List Char) : Except Flaw Float := do
  let (negative, rest) ← signed ((Text.lower text))
  let value ←
    if rest = ".inf".toList then .ok (1.0 / 0.0)
    else if rest = ".nan".toList then .ok (0.0 / 0.0)
    else if rest.contains ':' then do
      let parts ← (Text.splitOn ':' rest).mapM realOf
      let step := fun (sum : Float × Nat) part =>
        (sum.1 + part * Float.ofNat sum.2, sum.2 * 60)
      .ok (parts.reverse.foldl step (0.0, 1)).1
    else realOf rest
  return if negative then -value else value

def Kind.read (kind : Kind) (content : List Char) : Except Flaw Value :=
  match kind with
  | null => .ok .null
  | text => .ok (.text (String.ofList content))
  | binary => if content.all fun char => char.toNat < 128 then .ok .other else .error .malformed
  | flag =>
    let word := String.ofList (Text.lower content)
    match flagWords.find? fun entry => entry.1 == word with
    | some (_, value) => .ok (.flag value)
    | none => .error (.unreadable .key word)
  | whole => Value.whole <$> readWhole content
  | real => Value.real <$> readReal content
  | moment =>
    match Moment.parse? content with
    | none =>
      .error (.unreadable .member "\x27NoneType\x27 object has no attribute \x27groupdict\x27")
    | some found =>
      match found.flaw? with
      | none => .ok .other
      | some message => .error (.unreadable .value message)
  | _ => .error .malformed

end Scep.Yaml
