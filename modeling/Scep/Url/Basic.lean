import Scep.Idn.Label
import Scep.Query

/-!
Addresses of resources in normal form, and what can be read off them.
-/

namespace Scep

/-- An address whose components are in normal form: ASCII throughout, all that
needs an escape being escaped.  A query or a fragment may be there and empty. -/
structure Url where
  scheme : List Char := []
  userInfo : List Char := []
  host : List Char := []
  port : Option Int := none
  path : List Char := []
  query : Option (List Char) := none
  fragment : Option (List Char) := none
  deriving DecidableEq, Repr

namespace Url

inductive Flaw where
  | tooLong
  | componentTooLong (component : String)
  | controlCharacter (char : Char) (position : Nat)
  | controlInComponent (component : String) (char : Char) (position : Nat)
  | invalidComponent (component : String)
  | invalidPort (port : String)
  | invalidVersion4 (host : String)
  | invalidVersion6 (host : String)
  | invalidHostName (host : String)
  | pathWithoutSlash
  | pathLikeHost
  | pathLikeScheme
  deriving DecidableEq, Repr

def Flaw.message : Flaw → String
  | tooLong => "URL too long"
  | componentTooLong component => "URL component \x27" ++ component ++ "\x27 too long"
  | controlCharacter char position =>
    "Invalid non-printable ASCII character in URL, " ++ Text.quoted (String.ofList [char]) ++
      " at position " ++ toString position ++ "."
  | controlInComponent component char position =>
    "Invalid non-printable ASCII character in URL " ++ component ++ " component, " ++
      Text.quoted (String.ofList [char]) ++ " at position " ++ toString position ++ "."
  | invalidComponent component => "Invalid URL component \x27" ++ component ++ "\x27"
  | invalidPort port => "Invalid port: " ++ Text.quoted port
  | invalidVersion4 host => "Invalid IPv4 address: " ++ Text.quoted host
  | invalidVersion6 host => "Invalid IPv6 address: " ++ Text.quoted host
  | invalidHostName host => "Invalid IDNA hostname: " ++ Text.quoted host
  | pathWithoutSlash => "For absolute URLs, path must be empty or begin with \x27/\x27"
  | pathLikeHost => "Relative URLs cannot have a path starting with \x27//\x27"
  | pathLikeScheme => "Relative URLs cannot have a path starting with \x27:\x27"

/-! ### Text -/

def decimal (number : Int) : List Char :=
  (if number < 0 then ['-'] else []) ++ Nat.toDigits 10 number.natAbs

/-- The host and the port; a numeric host of eight groups is put in brackets. -/
def netloc (url : Url) : List Char :=
  (if url.host.contains ':' then '[' :: url.host ++ [']'] else url.host) ++
    match url.port with
    | none => []
    | some port => ':' :: decimal port

def authority (url : Url) : List Char :=
  (if url.userInfo.isEmpty then [] else url.userInfo ++ ['@']) ++ url.netloc

def render (url : Url) : List Char :=
  (if url.scheme.isEmpty then [] else url.scheme ++ [':']) ++
    (if url.authority.isEmpty then [] else '/' :: '/' :: url.authority) ++
    url.path ++
    (match url.query with
      | none => []
      | some query => '?' :: query) ++
    match url.fragment with
    | none => []
    | some fragment => '#' :: fragment

/-! ### Parts as they are meant -/

/-- The host as it is shown.  Only a host that starts with an encoded label is
decoded, and one that encodes no name has no shown form. -/
def shownHost (url : Url) : Except Idn.Flaw (List Char) :=
  if Idn.encodedMark.isPrefixOf url.host then Idn.shownName url.host else .ok url.host

def userName (url : Url) : List Char :=
  Text.Percent.decode (url.userInfo.takeWhile (· ≠ ':'))

def password (url : Url) : List Char :=
  Text.Percent.decode ((url.userInfo.dropWhile (· ≠ ':')).drop 1)

def rawPath (url : Url) : List Char := if url.path.isEmpty then ['/'] else url.path

def shownPath (url : Url) : List Char := Text.Percent.decode url.rawPath

def target (url : Url) : List Char :=
  url.rawPath ++ match url.query with
    | none => []
    | some query => '?' :: query

def shownFragment (url : Url) : List Char := Text.Percent.decode (url.fragment.getD [])

def params (url : Url) : Query := (Query.parse (url.query.getD [])).grouped

end Url

end Scep
