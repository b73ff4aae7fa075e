import Scep.Exchange.Inflate
import Scep.Text.Blank

/-!
The codings of a body, named by its header fields and undone piece by piece.
-/

namespace Scep

abbrev Headers := List (String × String)

namespace Headers

def values (headers : Headers) (name : String) : List String :=
  (headers.filter fun field => field.1.toLower == name.toLower).map Prod.snd

def value? (headers : Headers) (name : String) : Option String :=
  match headers.values name with
  | [] => none
  | values => some (String.intercalate ", " values)

end Headers

inductive Coding where
  | identity
  | compressed (reader : Inflate.Reader)
  /-- A compressed body of which nothing has been read, and whose wrapper may
  be missing. -/
  | unwrapped
  deriving Repr

namespace Coding

def ofName? (name : String) : Option Coding :=
  if name = "identity" then some .identity
  else if name = "gzip" then some (.compressed (.start .gzip))
  else if name = "deflate" then some .unwrapped
  else none

/-- Undoes the coding on one piece of a body.  A body that may lack its wrapper
is first read as if it had it, and only the first piece can show that it has
not. -/
def decode (coding : Coding) (piece : List UInt8) :
    Except String (Coding × List UInt8) :=
  match coding with
  | .identity => .ok (.identity, piece)
  | .compressed reader => (reader.feed piece).map fun (next, data) => (.compressed next, data)
  | .unwrapped =>
    match (Inflate.Reader.start .zlib).feed piece with
    | .ok (next, data) => .ok (.compressed next, data)
    | .error _ =>
      ((Inflate.Reader.start .raw).feed piece).map fun (next, data) => (.compressed next, data)

def decodeAll : List Coding → List UInt8 → Except String (List Coding × List UInt8)
  | [], piece => .ok ([], piece)
  | coding :: inner, piece => do
    let (coding, piece) ← coding.decode piece
    let (inner, data) ← decodeAll inner piece
    return (coding :: inner, data)

end Coding

/-- The codings of a body, the outermost first: those named by the header,
last to first, unknown names being passed over. -/
def Headers.codings (headers : Headers) : List Coding :=
  let names := (headers.values "content-encoding").flatMap fun value =>
    (Text.splitOn ',' value.toList).map fun name =>
      String.ofList ((Text.strip name).map Char.toLower)
  (names.filterMap Coding.ofName?).reverse

end Scep
