import Scep.Text.Blank
import Scep.Text.Percent

/-!
Queries: names and values in the order in which they are given.

`Query.parse` reads any text and `Query.render` writes one that reads back.
Setting a value groups the pairs by name, in the order of first appearance.
-/

namespace Scep

abbrev Query := List (String × String)

namespace Query

/-! ### Reading -/

def spaced (char : Char) : Char := if char = '+' then ' ' else char

/-- A name or a value as it is meant: a plus sign is a space, and escapes are
undone. -/
def decodeComponent (text : List Char) : String :=
  String.ofList (Text.Percent.decode (text.map spaced))

def parsePair (piece : List Char) : String × String :=
  let name := piece.takeWhile (· ≠ '=')
  (decodeComponent name, decodeComponent (piece.drop (name.length + 1)))

def parse (text : List Char) : Query :=
  ((Text.splitOn '&' text).filter fun piece => !piece.isEmpty).map parsePair

/-! ### Writing -/

def encodeChar (char : Char) : List Char :=
  if char = ' ' then ['+']
  else if Text.Percent.isUnreserved char then [char]
  else Text.Percent.escape char

/-- A name or a value with a plus sign for a space, and all else escaped but
for unreserved characters. -/
def encodeComponent (text : String) : List Char := text.toList.flatMap encodeChar

def renderPair (pair : String × String) : List Char :=
  encodeComponent pair.1 ++ '=' :: encodeComponent pair.2

def render (query : Query) : List Char :=
  ['&'].intercalate (query.map renderPair)

/-! ### Names and values -/

/-- The names in a query, each once, in the order of first appearance. -/
def names (query : Query) : List String := (query.map Prod.fst).eraseDups

def valuesOf (query : Query) (name : String) : List String :=
  (query.filter fun pair => pair.1 == name).map Prod.snd

def pairsOf (query : Query) (name : String) : Query :=
  query.filter fun pair => pair.1 == name

def grouped (query : Query) : Query := query.names.flatMap query.pairsOf

/-- Gives a name one value, in the place of those that it had or at the end. -/
def set (query : Query) (name value : String) : Query :=
  let present := query.names.flatMap fun other =>
    if other == name then [(name, value)] else query.pairsOf other
  if query.names.contains name then present else present ++ [(name, value)]

def last? (query : Query) (name : String) : Option String :=
  (query.reverse.find? fun pair => pair.1 == name).map Prod.snd

end Query

end Scep
