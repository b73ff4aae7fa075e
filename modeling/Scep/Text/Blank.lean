/-!
Blank characters, the words between them, and the lines of a text.
-/

namespace Scep.Text

/-- White space: the white space of Unicode and the four information
separators below the space. -/
def isBlank (char : Char) : Bool :=
  let value := char.toNat
  (0x09 ≤ value && value ≤ 0x0D) || (0x1C ≤ value && value ≤ 0x20) ||
    value == 0x85 || value == 0xA0 || value == 0x1680 ||
    (0x2000 ≤ value && value ≤ 0x200A) || value == 0x2028 || value == 0x2029 ||
    value == 0x202F || value == 0x205F || value == 0x3000

def isWhite (char : Char) : Bool :=
  isBlank char && !(0x1C ≤ char.toNat && char.toNat ≤ 0x1F)

def strip (text : List Char) : List Char :=
  ((text.dropWhile isBlank).reverse.dropWhile isBlank).reverse

structure Words where
  done : List (List Char)
  current : List Char

def Words.close (words : Words) : List (List Char) :=
  if words.current.isEmpty then words.done else words.current.reverse :: words.done

def Words.step (words : Words) (char : Char) : Words :=
  if isBlank char then ⟨words.close, []⟩ else ⟨words.done, char :: words.current⟩

def words (text : List Char) : List (List Char) :=
  (text.foldl Words.step ⟨[], []⟩).close.reverse

def isLineEnd (char : Char) : Bool :=
  let value := char.toNat
  (0x0A ≤ value && value ≤ 0x0D) || (0x1C ≤ value && value ≤ 0x1E) ||
    value == 0x85 || value == 0x2028 || value == 0x2029

/-- The lines of a text from `current`, the start of the first one, last
character first. -/
def linesFrom (current : List Char) : List Char → List (List Char)
  | [] => if current.isEmpty then [] else [current.reverse]
  | '\r' :: '\n' :: rest => current.reverse :: linesFrom [] rest
  | char :: rest =>
    if isLineEnd char then current.reverse :: linesFrom [] rest
    else linesFrom (char :: current) rest

def lines (text : List Char) : List (List Char) := linesFrom [] text

def splitStep (mark char : Char) (pieces : List (List Char)) : List (List Char) :=
  if char = mark then [] :: pieces
  else match pieces with
    | [] => [[char]]
    | piece :: rest => (char :: piece) :: rest

/-- The pieces of a text between single occurrences of a mark: one more than
there are marks. -/
def splitOn (mark : Char) (text : List Char) : List (List Char) :=
  text.foldr (splitStep mark) [[]]

def contains {α : Type} [BEq α] (part : List α) : List α → Bool
  | [] => part.isEmpty
  | first :: rest => part.isPrefixOf (first :: rest) || contains part rest

end Scep.Text
