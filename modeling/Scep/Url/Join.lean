import Scep.Text.Blank
import Scep.Url.Parse

/-!
Addresses that are given relative to others.

What is missing of an address is taken from the other one, a path from the last slash
on.  Parameters of the last segment are no part of the path.
-/

namespace Scep.Url

def relativeSchemes : List String :=
  ["ftp", "http", "gopher", "nntp", "imap", "wais", "file", "https", "shttp", "mms", "prospero",
    "rtsp", "rtsps", "rtspu", "sftp", "svn", "svn+ssh", "ws", "wss"]

def parameterSchemes : List String :=
  ["ftp", "hdl", "prospero", "http", "imap", "https", "shttp", "rtsp", "rtsps", "rtspu", "sip",
    "sips", "mms", "sftp", "tel"]

def splitParameters (scheme path : List Char) : List Char × List Char :=
  if parameterSchemes.contains (String.ofList scheme) then
    let last := (path.reverse.takeWhile (· ≠ '/')).reverse
    let name := last.takeWhile (· ≠ ';')
    (path.take (path.length - last.length) ++ name, last.drop (name.length + 1))
  else (path, [])

def joinParameters (parts : List Char × List Char) : List Char :=
  if parts.2.isEmpty then parts.1 else parts.1 ++ ';' :: parts.2

/-- Goes one segment on, where the segments so far are given last first. -/
def resolveStep (done : List (List Char)) (segment : List Char) : List (List Char) :=
  if segment = ['.', '.'] then done.drop 1
  else if segment = ['.'] then done
  else segment :: done

def resolve (base path : List Char) : List Char :=
  let given := Text.splitOn '/' path
  let parts := Text.splitOn '/' base
  let directory := if parts.getLast? = some [] then parts else parts.dropLast
  let all := directory ++ given
  let segments :=
    if path.head? = some '/' then given
    else all.take 1 ++ ((all.drop 1).dropLast.filter (!·.isEmpty)) ++ (all.drop 1).getLast?.toList
  let done := segments.foldl resolveStep []
  let closed :=
    if [['.'], ['.', '.']].contains (segments.getLast?.getD []) then [] :: done else done
  let joined := ['/'].intercalate closed.reverse
  if joined.isEmpty then ['/'] else joined

/-- The text of an address that has no scheme, where `base` says what is missing. -/
def joined (base place : Url) : List Char :=
  if place.render.isEmpty then base.render
  else if !relativeSchemes.contains (String.ofList base.scheme) then place.render
  else
    let own := splitParameters base.scheme place.path
    let other := splitParameters base.scheme base.path
    let isBare := own.1.isEmpty && own.2.isEmpty
    let path :=
      if !place.authority.isEmpty then own
      else if isBare then other
      else (resolve other.1 own.1, own.2)
    let query := place.query.getD []
    let query :=
      if place.authority.isEmpty && isBare && query.isEmpty then base.query.getD [] else query
    let text := joinParameters path
    let marked := fun (mark : Char) (text : List Char) =>
      if text.isEmpty then [] else mark :: text
    base.scheme ++ "://".toList ++
      (if place.authority.isEmpty then base.authority else place.authority) ++
      (if text.isEmpty || text.head? == some '/' then text else '/' :: text) ++
      marked '?' query ++ marked '#' (place.fragment.getD [])

def join (base place : Url) : Except Flaw Url := parse (joined base place)

end Scep.Url
