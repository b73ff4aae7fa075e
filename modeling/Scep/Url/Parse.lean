import Scep.Number.Whole
import Scep.Text.Ascii
import Scep.Text.Lowercase
import Scep.Url.Address
import Scep.Url.Basic

/-!
Reading addresses.

A text is split into components, and the components are normalized one by one:
letters of scheme and host become small, dots in paths are resolved, and what
needs an escape is escaped.  Normalizing again changes nothing but the port,
which is compared with the scheme as it was written.
-/

namespace Scep.Url

structure Components where
  scheme : List Char
  authority : List Char
  path : List Char
  query : Option (List Char)
  fragment : Option (List Char)
  deriving DecidableEq, Repr

def lengthLimit : Nat := 65536

/-! ### Splitting -/

def isSchemeChar (char : Char) : Bool :=
  char.isAlphanum || char == '+' || char == '.' || char == '-'

/-- The scheme of a text, which may be empty but ends with a colon, and what
follows the colon. -/
def splitScheme (text : List Char) : Option (List Char × List Char) :=
  let scheme := text.takeWhile isSchemeChar
  match text.drop scheme.length with
  | ':' :: rest =>
    if scheme.isEmpty || scheme.head?.any Char.isAlpha then some (scheme, rest) else none
  | _ => none

def splitMark (mark : Char) (text : List Char) : List Char × Option (List Char) :=
  let before := text.takeWhile (· ≠ mark)
  match text.drop before.length with
  | [] => (before, none)
  | _ :: rest => (before, some rest)

def Components.split (text : List Char) : Components :=
  let (scheme, rest) := (splitScheme text).getD ([], text)
  let (rest, fragment) := splitMark '#' rest
  let (rest, query) := splitMark '?' rest
  match rest with
  | '/' :: '/' :: rest =>
    let authority := rest.takeWhile (· ≠ '/')
    ⟨scheme, authority, rest.drop authority.length, query, fragment⟩
  | path => ⟨scheme, [], path, query, fragment⟩

/-- The user information up to the last at sign, the host, and what follows
the host and a colon. -/
def splitAuthority (authority : List Char) : List Char × List Char × List Char :=
  let afterAt := (authority.reverse.takeWhile (· ≠ '@')).reverse
  let userInfo := authority.take (authority.length - afterAt.length - 1)
  let bracketed := (afterAt.reverse.dropWhile (· ≠ ']')).reverse
  let host :=
    if afterAt.head? == some '[' && !bracketed.isEmpty then bracketed
    else afterAt.takeWhile (· ≠ ':')
  let rest := afterAt.drop host.length
  (userInfo, host, if rest.head? == some ':' then rest.drop 1 else rest)

/-! ### Normal forms -/

def isFragmentSafe (char : Char) : Bool :=
  0x20 ≤ char.toNat && char.toNat < 0x7F && !([' ', '\x22', '<', '>', '\x60'].contains char)

def isQuerySafe (char : Char) : Bool :=
  0x20 ≤ char.toNat && char.toNat < 0x7F && !([' ', '\x22', '#', '<', '>'].contains char)

def isPathSafe (char : Char) : Bool :=
  isQuerySafe char && !(['?', '\x60', '\x7b', '\x7d'].contains char)

def isUserInfoSafe (char : Char) : Bool :=
  isPathSafe char && !(['/', ';', '=', '@', '[', '\\', ']', '^', '|'].contains char)

def isHostSafe (char : Char) : Bool :=
  Text.Percent.isUnreserved char ||
    ['!', '$', '&', '\x27', '(', ')', '*', '+', ',', ';', '='].contains char ||
    ['\x22', '\x60', '\x7b', '\x7d', '%', '|', '\\'].contains char

/-- The normal form of a host: a numeric address as it is, a name of ASCII in
small letters and escaped, any other name encoded. -/
def normalHost (host : List Char) : Except Flaw (List Char) :=
  if host.isEmpty then .ok []
  else if Address.looksLikeVersion4 host then
    if Address.isVersion4 host then .ok host
    else .error (.invalidVersion4 (String.ofList host))
  else if host.head? == some '[' && host.getLast? == some ']' && 2 ≤ host.length then
    let inner := (host.drop 1).dropLast
    if Address.isVersion6 inner then .ok inner
    else .error (.invalidVersion6 (String.ofList host))
  else if host.all Text.isAscii then
    .ok (Text.Percent.encode isHostSafe (host.map Char.toLower))
  else
    match Idn.encodedName (Text.lower host) with
    | .ok name => .ok name
    | .error _ => .error (.invalidHostName (String.ofList host))

def defaultPort? (scheme : List Char) : Option Int :=
  if scheme = "ftp".toList then some 21
  else if scheme = "http".toList ∨ scheme = "ws".toList then some 80
  else if scheme = "https".toList ∨ scheme = "wss".toList then some 443
  else none

/-- The port of an address, if it is given and is not that of the scheme. -/
def normalPort (port scheme : List Char) : Except Flaw (Option Int) :=
  if port.isEmpty then .ok none
  else
    match Number.whole? port with
    | none => .error (.invalidPort (String.ofList port))
    | some number => .ok (if defaultPort? scheme = some number then none else some number)

/-- Goes one segment on in a path, of which `done` holds the segments so far,
last first. -/
def pathStep (done : List (List Char)) (segment : List Char) : List (List Char) :=
  if segment = ['.'] then done
  else if segment = ['.', '.'] then
    match done with
    | [] => []
    | [[]] => [[]]
    | _ :: rest => rest
  else segment :: done

def normalPath (path : List Char) : List Char :=
  let segments := Text.splitOn '/' path
  if segments.contains ['.'] || segments.contains ['.', '.'] then
    ['/'].intercalate (segments.foldl pathStep []).reverse
  else path

/-- Checks that a path cannot be taken for another component. -/
def checkPath (path : List Char) (hasScheme hasAuthority : Bool) : Except Flaw Unit :=
  if hasAuthority && !path.isEmpty && path.head? != some '/' then .error .pathWithoutSlash
  else if hasScheme || hasAuthority then .ok ()
  else if path.take 2 == ['/', '/'] then .error .pathLikeHost
  else if path.head? == some ':' then .error .pathLikeScheme
  else .ok ()

def Components.normalize (components : Components) : Except Flaw Url := do
  let (userInfo, host, port) := splitAuthority components.authority
  let scheme := components.scheme.map Char.toLower
  let userInfo := Text.Percent.encode isUserInfoSafe userInfo
  let host ← normalHost host
  let port ← normalPort port components.scheme
  let hasScheme := !scheme.isEmpty
  let hasAuthority := !userInfo.isEmpty || !host.isEmpty || port.isSome
  checkPath components.path hasScheme hasAuthority
  let path := if hasScheme || hasAuthority then normalPath components.path else components.path
  return {
    scheme, userInfo, host, port
    path := Text.Percent.encode isPathSafe path
    query := components.query.map (Text.Percent.encode isQuerySafe)
    fragment := components.fragment.map (Text.Percent.encode isFragmentSafe) }

/-! ### Reading -/

def isControl (char : Char) : Bool := char.toNat < 0x20 || char.toNat == 0x7F

def control? (text : List Char) : Option (Char × Nat) :=
  match text.findIdx? isControl with
  | none => none
  | some position => (text.drop position).head?.map fun char => (char, position)

def parse (text : List Char) : Except Flaw Url := do
  if lengthLimit < text.length then throw .tooLong
  match control? text with
  | some (char, position) => throw (.controlCharacter char position)
  | none => (Components.split text).normalize

/-! ### Rebuilding -/

def components (url : Url) : Components :=
  ⟨url.scheme, url.authority, url.path, url.query, url.fragment⟩

def checkComponent (name : String) (fits : List Char → Bool) (text : List Char) :
    Except Flaw Unit := do
  if lengthLimit < text.length then throw (.componentTooLong name)
  match control? text with
  | some (char, position) => throw (.controlInComponent name char position)
  | none => if fits text then return () else throw (.invalidComponent name)

def isScheme (text : List Char) : Bool :=
  text.isEmpty || (text.head?.any Char.isAlpha && text.all isSchemeChar)

def Components.build (components : Components) : Except Flaw Url := do
  checkComponent "scheme" isScheme components.scheme
  checkComponent "authority" (fun text => !text.any fun char => ['/', '?', '#'].contains char)
    components.authority
  checkComponent "path" (fun text => !text.any fun char => ['?', '#'].contains char)
    components.path
  if let some query := components.query then
    checkComponent "query" (fun text => !text.contains '#') query
  if let some fragment := components.fragment then
    checkComponent "fragment" (fun _ => true) fragment
  components.normalize

/-- Gives an address another query.  An empty list of pairs leaves none. -/
def withQuery (url : Url) (query : Query) : Except Flaw Url :=
  { url.components with query := if query.isEmpty then none else some query.render }.build

def setParam (url : Url) (name value : String) : Except Flaw Url :=
  url.withQuery ((Query.parse (url.query.getD [])).set name value)

end Scep.Url
