import Scep.Text.Digit

/-!
Text that must be ASCII to be sent.
-/

namespace Scep.Text

structure NotAscii where
  text : String
  deriving DecidableEq, Repr

def isAscii (char : Char) : Bool := char.toNat < 0x80

def ascii (text : List Char) : Except NotAscii (List Char) :=
  if text.all isAscii then .ok text else .error ⟨String.ofList text⟩

def asciiEscape (char : Char) : List Char :=
  if char.toNat < 0x100 then '\\' :: 'x' :: hexFixed 2 char.toNat
  else if char.toNat < 0x10000 then '\\' :: 'u' :: hexFixed 4 char.toNat
  else '\\' :: 'U' :: hexFixed 8 char.toNat

def NotAscii.message (flaw : NotAscii) : String :=
  let before := flaw.text.toList.takeWhile isAscii
  let run := (flaw.text.toList.drop before.length).takeWhile fun char => !isAscii char
  let start := before.length
  let which := match run with
    | [char] =>
      "character \x27" ++ String.ofList (asciiEscape char) ++ "\x27 in position " ++ toString start
    | _ => "characters in position " ++ toString start ++ "-" ++ toString (start + run.length - 1)
  "\x27ascii\x27 codec can\x27t encode " ++ which ++ ": ordinal not in range(128)"

end Scep.Text
