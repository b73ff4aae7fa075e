import Scep.Responder.Route
import Scep.Settings.Load

/-!
Responders, and the place that they have in common.

Each responder has its own routes, but there is one place for the service by
which operations are performed: the service of the responder that was created
last is the one that all of them use.
-/

namespace Scep

def version : String := "0.1.0"

structure Responder where
  path : List Char
  host : String
  port : Int
  pages : List (List Char × Page)
  deriving DecidableEq, Repr

namespace Responder

inductive Endpoint where
  | own (page : Page)
  | operations
  | health
  deriving DecidableEq, Repr

def Endpoint.methods : Endpoint → List String
  | own _ => ["GET", "HEAD"]
  | operations => ["GET", "POST"]
  | health => ["GET"]

def wellBeing : Page :=
  .object 200 ("\x7b\"status\":\"healthy\",\"version\":\"" ++ version ++ "\"\x7d")

/-- Whether a path is that of a route.  One line feed after it is passed over. -/
def leadsTo (route path : List Char) : Bool := path == route || path == route ++ ['\n']

/-- The endpoints and their paths in the order in which they are tried: the pages of
the server come before all else. -/
def routes (responder : Responder) : List (Endpoint × List Char) :=
  responder.pages.map (fun page => (.own page.2, page.1)) ++
    [(.operations, responder.path), (.health, "/health".toList)]

def endpoints (responder : Responder) (path : List Char) : List Endpoint :=
  responder.routes.filterMap fun route => if leadsTo route.2 path then some route.1 else none

inductive Finding where
  | endpoint (endpoint : Endpoint)
  | otherMethods (allowed : List String)
  /-- There is nothing here, but there is at another path. -/
  | elsewhere (path : List Char)
  | nothing
  deriving DecidableEq, Repr

/-- A path with a slash at its end if it had none, and without the slashes at
its end if it had any. -/
def otherPath (path : List Char) : List Char :=
  if path.getLast? = some '/' then (path.reverse.dropWhile (· = '/')).reverse
  else path ++ ['/']

def find (responder : Responder) (method : String) (path : List Char) : Finding :=
  match responder.endpoints path with
  | [] =>
    if path ≠ ['/'] ∧ (responder.endpoints (otherPath path)) ≠ [] then .elsewhere (otherPath path)
    else .nothing
  | first :: rest =>
    match (first :: rest).find? fun endpoint => endpoint.methods.contains method with
    | some endpoint => .endpoint endpoint
    | none => .otherMethods first.methods

def isLocationSafe (char : Char) : Bool :=
  Text.Percent.isUnreserved char || ":/%#?=@[]!$&\x27()*+,;".toList.contains char

def location (arrival : Arrival) (path : List Char) : String :=
  let query := if arrival.query.isEmpty then [] else '?' :: Text.Utf8.decodeLossy arrival.query
  String.ofList (Text.Percent.encode isLocationSafe
    ((arrival.scheme ++ "://" ++ arrival.host).toList ++ path ++ query))

def started (responder : Responder) : Audit.Record :=
  { event := .startup version responder.host responder.port }

end Responder

/-- What responders have in common: the service that performs operations, if
there is one. -/
structure Host (State : Type) where
  service : Option (Service State) := none

namespace Host

variable {State : Type}

/-- Creates a responder from settings, on a server that may have pages of its own.  Its
service takes the place of the one that was there; if there is something wrong the
host stays as it is. -/
def create (host : Host State) (files : Files) (settings : Settings)
    (handler : Option (Handler State)) (pages : List (List Char × Page)) :
    Except Raised (Host State × Responder × List Audit.Record) := do
  let (store, loaded) ← Certificate.Store.load files settings.ca
  let service : Service State := ⟨settings.capabilities, store.payload, handler⟩
  let responder : Responder :=
    ⟨settings.server.path.toList, settings.server.host, settings.server.port, pages⟩
  return ({ host with service := some service }, responder, [{ event := loaded }])

def unconfigure (host : Host State) : Host State := { host with service := none }

def serve (host : Host State) (responder : Responder) (arrival : Arrival) (state : State) :
    State × Served :=
  match responder.find arrival.method arrival.path with
  | .endpoint (.own page) => (state, { page })
  | .endpoint .operations =>
    match host.service with
    | some service => Route.serve service arrival state
    | none => (state, Route.refuse 0 (.plain .runtime "SCEP service not configured"))
  | .endpoint .health => (state, { page := Responder.wellBeing })
  | .otherMethods allowed => (state, { page := Page.methodNotAllowed allowed })
  | .elsewhere path => (state, { page := Page.redirect (Responder.location arrival path) })
  | .nothing => (state, { page := Page.notFound })

end Host

end Scep
