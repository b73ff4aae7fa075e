import Scep.Text.Digit
import Scep.Text.Printable

/-!
Text in quotes, for messages and log lines: what is not printable is escaped,
so a quoted text is always one line of printable characters.
-/

namespace Scep.Text

/-- The quotation mark around a text: the double one where it saves escaping
a single one, the single one otherwise. -/
def quotationMark (text : List Char) : Char :=
  if text.contains '\x27' && !text.contains '\x22' then '\x22' else '\x27'

def escape (mark char : Char) : List Char :=
  if char = '\\' ∨ char = mark then ['\\', char]
  else if char = '\n' then ['\\', 'n']
  else if char = '\r' then ['\\', 'r']
  else if char = '\t' then ['\\', 't']
  else if isPrintable char then [char]
  else if char.toNat < 0x100 then '\\' :: 'x' :: hexFixed 2 char.toNat
  else if char.toNat < 0x10000 then '\\' :: 'u' :: hexFixed 4 char.toNat
  else '\\' :: 'U' :: hexFixed 8 char.toNat

def quote (text : List Char) : List Char :=
  quotationMark text :: text.flatMap (escape (quotationMark text)) ++ [quotationMark text]

def quoted (text : String) : String :=
  String.ofList (quote text.toList)

end Scep.Text
