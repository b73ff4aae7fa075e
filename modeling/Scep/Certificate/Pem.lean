import Scep.Base64
import Scep.Text.Blank
import Scep.Text.Printable
import Scep.Text.Utf8

/-!
Blocks of base64 between lines that say what they hold.
-/

namespace Scep.Pem

inductive Flaw where
  | noBlock
  | noBeginLabel
  | noEndLabel
  | mismatchedLabels
  | invalidData
  | notUtf8 (flaw : Text.Utf8.Flaw)
  | invalidHeader (line : List Char)
  deriving DecidableEq, Repr

structure Block where
  label : List Char
  content : List UInt8
  deriving DecidableEq, Repr

def ascii (text : String) : List UInt8 := Text.Utf8.encode text.toList

/-- What comes before and after a mark.  The mark is looked for octet by octet,
and after a false start not within it. -/
def splitAt? (mark : List UInt8) (done owed : List UInt8) :
    List UInt8 → Option (List UInt8 × List UInt8)
  | [] => none
  | octet :: rest =>
    match owed with
    | [] => none
    | next :: others =>
      let done := octet :: done
      if octet = next then
        if others.isEmpty then some ((done.drop mark.length).reverse, rest)
        else splitAt? mark done others rest
      else splitAt? mark done mark rest

def split? (mark : String) (octets : List UInt8) : Option (List UInt8 × List UInt8) :=
  splitAt? (ascii mark) [] (ascii mark) octets

def skipBlanks (octets : List UInt8) : List UInt8 :=
  octets.dropWhile fun octet => octet == 0x20 || octet == 0x09 || octet == 0x0A || octet == 0x0D

structure Frame where
  opening : List UInt8
  headers : List UInt8
  data : List UInt8
  closing : List UInt8
  deriving DecidableEq, Repr

def frame? (octets : List UInt8) : Option (Frame × List UInt8) := do
  let (_, rest) ← split? "-----BEGIN " octets
  let (opening, rest) ← split? "-----" rest
  let (body, rest) ← split? "-----END " (skipBlanks rest)
  let (closing, rest) ← split? "-----" rest
  let (headers, data) := ((split? "\n\n" body).or (split? "\r\n\r\n" body)).getD ([], body)
  some (⟨opening, headers, data, closing⟩, skipBlanks rest)

def frames (octets : List UInt8) : Nat → List Frame
  | 0 => []
  | fuel + 1 =>
    match frame? octets with
    | none => []
    | some (frame, rest) => frame :: frames rest fuel

def textOf (octets : List UInt8) : Except Flaw (List Char) :=
  (Text.Utf8.decode octets).mapError .notUtf8

def trimEnd (line : List Char) : List Char := (line.reverse.dropWhile Text.isWhite).reverse

def trimReturn (line : List Char) : List Char :=
  if line.getLast? = some '\r' then line.dropLast else line

def linesOf (text : List Char) : List (List Char) :=
  let lines := Text.splitOn '\n' text
  let last := lines.getLast?.getD []
  lines.dropLast.map trimReturn ++ (if last.isEmpty then [] else [last])

/-- The octets of base64 text, of which there is only one for them. -/
def decode (text : List Char) : Except Flaw (List UInt8) :=
  match Base64.Reader.start.read text with
  | .ok octets => if Base64.encodeStandard octets = text then .ok octets else .error .invalidData
  | .error _ => .error .invalidData

def Frame.block (frame : Frame) : Except Flaw Block := do
  let label ← textOf frame.opening
  if label.isEmpty then throw .noBeginLabel
  let closing ← textOf frame.closing
  if closing.isEmpty then throw .noEndLabel
  if label ≠ closing then throw .mismatchedLabels
  let data ← textOf frame.data
  let content ← decode ((linesOf data).map trimEnd).flatten
  let headers ← textOf frame.headers
  match (linesOf headers).find? fun line => !line.contains ':' with
  | some line => throw (.invalidHeader line)
  | none => return ⟨label, content⟩

def blocks (octets : List UInt8) : Except Flaw (List Block) :=
  (frames octets octets.length.succ).mapM Frame.block

/-! ### Flaws in words -/

def shownLine (line : List Char) : String :=
  let escaped := line.flatMap fun char =>
    if char = '\x22' ∨ char = '\\' then ['\\', char]
    else if char = '\t' then ['\\', 't']
    else if char = '\r' then ['\\', 'r']
    else if Text.isPrintable char then [char]
    else "\\u\x7b".toList ++ Nat.toDigits 16 char.toNat ++ ['\x7d']
  String.ofList ('\x22' :: (escaped ++ ['\x22']))

def shownFlaw : Text.Utf8.Flaw → String
  | .invalidStart position _ => shown position (some 1)
  | .invalidContinuation position count _ => shown position (some count)
  | .unexpectedEnd position _ _ => shown position none
where
  shown (position : Nat) (count : Option Nat) : String :=
    let length := match count with
      | some count => "Some(" ++ toString count ++ ")"
      | none => "None"
    "Utf8Error \x7b valid_up_to: " ++ toString position ++ ", error_len: " ++ length ++ " \x7d"

def Flaw.name : Flaw → String
  | .noBlock => "MalformedFraming"
  | .noBeginLabel => "MissingBeginTag"
  | .noEndLabel => "MissingEndTag"
  | .mismatchedLabels => "MismatchedTags"
  | .invalidData => "InvalidData"
  | .notUtf8 flaw => "NotUtf8(" ++ shownFlaw flaw ++ ")"
  | .invalidHeader line => "InvalidHeader(" ++ shownLine line ++ ")"

def Flaw.message (flaw : Flaw) : String :=
  "Unable to load PEM file. See https:" ++ "//cryptography.io/en/latest/faq/" ++
    "#why-can-t-i-import-my-pem-file for more details. " ++ flaw.name

end Scep.Pem
