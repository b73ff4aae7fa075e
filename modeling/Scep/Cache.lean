import Scep.Fault
import Scep.Operation
import Scep.Text.Blank

/-!
What a client knows of the capabilities of a server, and how those who need to
know share one fetch.

The list is fetched when someone needs it and none is kept.  Whoever comes while
a fetch is under way waits for that one.  A fetch runs by itself: those who wait
for it may leave without stopping it, and only closing the cache stops it.

Everything happens in single moves, so any order in which readers, fetches and
closers take their turns is a list of moves.  A move whose condition does not
hold changes nothing.
-/

namespace Scep

inductive Ending (α : Type) where
  | value (result : α)
  | failed (raised : Raised)
  | cancelled
  deriving DecidableEq, Repr

namespace Cache

inductive Phase where
  | queued
  | running
  | ended (ending : Ending Octets)
  deriving DecidableEq, Repr

structure Flight where
  phase : Phase := .queued
  /-- Whether someone has asked for it to stop. -/
  isStopping : Bool := false
  deriving DecidableEq, Repr

def Flight.ending? (flight : Flight) : Option (Ending Octets) :=
  match flight.phase with
  | .ended ending => some ending
  | _ => none

inductive Reader where
  | waiting (flight : Nat)
  | finished (ending : Ending Octets)
  deriving DecidableEq, Repr

inductive Closer where
  | waiting (flight : Nat)
  | finished
  | gone
  deriving DecidableEq, Repr

inductive State where
  | empty
  | fetching
  | populated
  deriving DecidableEq, Repr

def State.name : State → String
  | empty => "empty"
  | fetching => "fetching"
  | populated => "populated"

end Cache

/-- The list that is kept, the fetch that newcomers join, and all fetches,
readers and closers so far, each known by its place in the order of creation. -/
structure Cache where
  stored : Octets := []
  slot : Option Nat := none
  flights : List Cache.Flight := []
  readers : List Cache.Reader := []
  closers : List Cache.Closer := []
  deriving DecidableEq, Repr

namespace Cache

/-- The state of a cache.  A list that is kept counts for more than a fetch
that is under way. -/
def state (cache : Cache) : State :=
  if cache.stored.isEmpty then
    if cache.slot.isSome then .fetching else .empty
  else .populated

/-- Keeps a list in place of the last one.  An empty list is not kept. -/
def replace (cache : Cache) (list : Octets) : Cache :=
  if list.isEmpty then cache else { cache with stored := list }

def advertises (list : Octets) (capability : String) : Bool :=
  Text.contains (Text.Utf8.encode capability.toList) list

def ending? (cache : Cache) (flight : Nat) : Option (Ending Octets) :=
  cache.flights[flight]?.bind Flight.ending?

def look (cache : Cache) : Cache × Reader :=
  if cache.stored.isEmpty then
    match cache.slot with
    | some flight => (cache, .waiting flight)
    | none =>
      let flight := cache.flights.length
      ({ cache with slot := some flight, flights := cache.flights ++ [{}] }, .waiting flight)
  else (cache, .finished (.value cache.stored))

/-- Goes on with a reader whose fetch has ended.  An empty list is an answer as
it is; after any other one the reader looks again. -/
def settle (cache : Cache) : Ending Octets → Cache × Reader
  | .value (_ :: _) => cache.look
  | ending => (cache, .finished ending)

inductive Move where
  | replace (list : Octets)
  | ask
  | resume (reader : Nat)
  | abandon (reader : Nat)
  /-- A fetch begins, unless it was asked to stop before. -/
  | launch (flight : Nat)
  | land (flight : Nat) (ending : Ending Octets)
  | close
  | closed (closer : Nat)
  | quit (closer : Nat)
  deriving DecidableEq, Repr

def setReader (cache : Cache) (index : Nat) (reader : Reader) : Cache :=
  { cache with readers := cache.readers.set index reader }

def setCloser (cache : Cache) (index : Nat) (closer : Closer) : Cache :=
  { cache with closers := cache.closers.set index closer }

def setPhase (cache : Cache) (index : Nat) (phase : Phase) : Cache :=
  { cache with flights := cache.flights.modify index fun flight => { flight with phase } }

def awaited? (cache : Cache) (reader : Nat) : Option Nat :=
  match cache.readers[reader]? with
  | some (.waiting flight) => some flight
  | _ => none

def closing? (cache : Cache) (closer : Nat) : Option Nat :=
  match cache.closers[closer]? with
  | some (.waiting flight) => some flight
  | _ => none

/-- Ends a fetch that ran: its list is kept, and newcomers no longer join it. -/
def land (cache : Cache) (flight : Nat) (ending : Ending Octets) : Cache :=
  let kept := match ending with
    | .value list => cache.replace list
    | _ => cache
  { kept.setPhase flight (.ended ending) with slot := none }

def apply (cache : Cache) : Move → Cache
  | .replace list => cache.replace list
  | .ask =>
    let (next, reader) := cache.look
    { next with readers := next.readers ++ [reader] }
  | .resume index =>
    match (cache.awaited? index).bind cache.ending? with
    | some ending =>
      let (next, reader) := cache.settle ending
      next.setReader index reader
    | none => cache
  | .abandon index =>
    match cache.awaited? index with
    | some _ => cache.setReader index (.finished .cancelled)
    | none => cache
  | .launch index =>
    match cache.flights[index]? with
    | some ⟨.queued, false⟩ => cache.setPhase index .running
    | some ⟨.queued, true⟩ => cache.setPhase index (.ended .cancelled)
    | _ => cache
  | .land index ending =>
    match cache.flights[index]? with
    | some ⟨.running, _⟩ => cache.land index ending
    | _ => cache
  | .close =>
    match cache.slot with
    | none => { cache with closers := cache.closers ++ [.finished] }
    | some flight =>
      { cache with
        closers := cache.closers ++ [.waiting flight]
        flights := cache.flights.modify flight fun flight => { flight with isStopping := true } }
  | .closed index =>
    match (cache.closing? index).bind cache.ending? with
    | some _ => { cache.setCloser index .finished with slot := none }
    | none => cache
  | .quit index =>
    match cache.closing? index with
    | some _ => cache.setCloser index .gone
    | none => cache

def run (cache : Cache) (moves : List Move) : Cache := moves.foldl apply cache

end Cache

end Scep
