import Scep.Audit
import Scep.Cache
import Scep.Client.Guard
import Scep.Exchange.Answer
import Scep.Exchange.Method
import Scep.Exchange.Request

/-!
Calls that run side by side on one client.

Every call is a task, and so is every fetch of the capability list.  A task runs
until it has to wait: for the list, for the other end of the line, or for a
fetch that is being stopped.  What may run next stands in a queue, and the first
entry is performed first.  Performing an entry is a total function of the
session, so the order of the queue is one schedule among many.

The session changes the cache by moves alone, and everything that it says to the
other end goes through its `Line`.
-/

namespace Scep

/-! ### Calls and what they need -/

inductive Call where
  | list
  | supports (capability : String)
  | capabilities
  | certificate
  | enroll (message : Octets)
  | nextCertificate
  | close
  deriving DecidableEq, Repr

inductive Result where
  | nothing
  | octets (data : Octets)
  | truth (value : Bool)
  | certificate (data : Octets) (chain : Int)
  deriving DecidableEq, Repr

structure Ask where
  method : Method
  request : Request
  deriving DecidableEq, Repr

def Ask.capabilities : Ask := ⟨.get, ⟨some .getCaCaps, []⟩⟩

inductive Wait where
  | ready
  | turn
  | gate (name : String)
  | forever
  deriving DecidableEq, Repr

/-- The way to the other end, whose state is `Far`.  An exchange is started,
leaves what it needs to go on, and is finished when it need not wait any more.
`tell` is what a call makes of a fault. -/
structure Line (Far Held : Type) where
  start : Ask → Far → Far × List Audit.Record × Except Raised (Wait × Held)
  finish : Held → Far → Far × List Audit.Record × Except Raised Response
  tell : Operation → Option Deadline → Raised → Raised

namespace Session

/-! ### Tasks -/

inductive Work where
  | flight (number : Nat)
  | call (call : Call) (deadline : Option Deadline)

def Work.operation? : Work → Option Operation
  | .flight _ | .call (.supports _) _ | .call .capabilities _ => some .getCaCaps
  | .call .certificate _ => some .getCaCert
  | .call (.enroll _) _ => some .pkiOperation
  | .call .nextCertificate _ => some .getNextCaCert
  | .call .list _ | .call .close _ => none

inductive Stage (Held : Type) where
  | queued
  | listing (reader : Nat)
  | sending (held : Held)
  | closing (closer : Nat)
  | ended (ending : Ending Result)

/-- A task.  Once what it waits for has happened it is `isRoused` and will be
performed in its turn. -/
structure Task (Held : Type) where
  work : Work
  stage : Stage Held := .queued
  isRoused : Bool := false
  isCancelled : Bool := false
  hasExpired : Bool := false

namespace Task

def isWaiting {Held : Type} (task : Task Held) : Bool :=
  match task.stage with
  | .queued | .ended _ => false
  | _ => true

def ending? {Held : Type} (task : Task Held) : Option (Ending Result) :=
  match task.stage with
  | .ended ending => some ending
  | _ => none

end Task

inductive Entry where
  | begin (task : Nat)
  /-- A task is told that the fetch it waits for is over. -/
  | relay (task : Nat)
  /-- A task that is roused goes on. -/
  | wake (task : Nat)
  | expire (task : Nat)
  /-- Whoever waits for a task from outside is told that it is over. -/
  | report
  /-- Whoever waits for a task from outside goes on. -/
  | caller
  deriving DecidableEq, Repr

end Session

structure Session (Far Held : Type) where
  far : Far
  deadline : Option Deadline := none
  cache : Cache := {}
  tasks : List (Session.Task Held) := []
  queue : List Session.Entry := []
  watchers : List (Nat × Nat) := []
  openGates : List String := []
  gated : List (String × Nat) := []
  now : Float := 0
  timers : List (Float × Nat) := []
  /-- What was asked of the other end, latest first. -/
  asked : List (Nat × Ask) := []
  /-- What was recorded, latest first. -/
  records : List Audit.Record := []

namespace Session

variable {Far Held : Type}

/-! ### Small changes -/

def post (session : Session Far Held) (entry : Entry) : Session Far Held :=
  { session with queue := session.queue ++ [entry] }

def record (session : Session Far Held) (records : List Audit.Record) : Session Far Held :=
  { session with records := records.reverse ++ session.records }

def update (session : Session Far Held) (index : Nat) (change : Task Held → Task Held) :
    Session Far Held :=
  { session with tasks := session.tasks.modify index change }

def pause (session : Session Far Held) (index : Nat) (stage : Stage Held) : Session Far Held :=
  session.update index fun task => { task with stage, isRoused := false }

def add (session : Session Far Held) (work : Work) : Session Far Held :=
  { session with
    tasks := session.tasks ++ [{ work }]
    queue := session.queue ++ [.begin session.tasks.length] }

/-- Makes a move of the cache.  A fetch that it creates becomes a task. -/
def move (session : Session Far Held) (move : Cache.Move) : Session Far Held :=
  let next := { session with cache := session.cache.apply move }
  if session.cache.flights.length < next.cache.flights.length then
    next.add (.flight session.cache.flights.length)
  else next

/-- Lets a task go on in its turn, if it waits and is not about to go on. -/
def rouse (session : Session Far Held) (index : Nat) : Session Far Held :=
  match session.tasks[index]? with
  | some task =>
    if task.isWaiting && !task.isRoused then
      (session.update index fun task => { task with isRoused := true }).post (.wake index)
    else session
  | none => session

/-- Asks a task to stop.  One that has not begun never will. -/
def cancel (session : Session Far Held) (index : Nat) : Session Far Held :=
  (session.update index fun task => { task with isCancelled := true }).rouse index

def announce (session : Session Far Held) (flight : Nat) : Session Far Held :=
  let (told, others) := session.watchers.partition fun watcher => watcher.1 == flight
  { session with
    queue := session.queue ++ told.map fun watcher => .relay watcher.2
    watchers := others }

/-- Lets a task wait for a fetch.  It is told at once if the fetch is over. -/
def watch (session : Session Far Held) (index flight : Nat) : Session Far Held :=
  match session.cache.ending? flight with
  | some _ => session.post (.relay index)
  | none => { session with watchers := session.watchers ++ [(flight, index)] }

/-! ### Ends of tasks -/

/-- Ends a task.  The end of a fetch is also a move of the cache, and is told
to all who wait for it. -/
def conclude (session : Session Far Held) (index : Nat) (work : Work) (ending : Ending Result) :
    Session Far Held :=
  let next := session.pause index (.ended ending)
  match work with
  | .call .. => next
  | .flight number =>
    let landing := match ending with
      | .value (.octets data) => .value data
      | .value _ => .value []
      | .failed raised => .failed raised
      | .cancelled => .cancelled
    (next.move (.land number landing)).announce number

def deadlineOf (session : Session Far Held) : Work → Option Deadline
  | .call _ (some deadline) => some deadline
  | _ => session.deadline

def fail (session : Session Far Held) (line : Line Far Held) (index : Nat) (work : Work)
    (raised : Raised) : Session Far Held :=
  let told := match work.operation? with
    | some operation => line.tell operation (session.deadlineOf work) raised
    | none => raised
  session.conclude index work (.failed told)

/-! ### Exchanges -/

def deliver (session : Session Far Held) (index : Nat) (work : Work) (response : Response) :
    Session Far Held :=
  match response.error with
  | some fault => session.conclude index work (.failed ⟨fault, none⟩)
  | none =>
    let updated := fun isImplicit => [{ event := .capabilitiesUpdated response.data isImplicit }]
    match work with
    | .flight _ => (session.record (updated true)).conclude index work (.value (.octets response.data))
    | .call .capabilities _ =>
      ((session.move (.replace response.data)).record (updated false)).conclude index work
        (.value (.octets response.data))
    | .call .certificate _ =>
      session.conclude index work (.value (.certificate response.data response.certificates))
    | .call .. => session.conclude index work (.value (.octets response.data))

def finish (session : Session Far Held) (line : Line Far Held) (index : Nat) (work : Work)
    (held : Held) : Session Far Held :=
  let (far, records, outcome) := line.finish held session.far
  let next := { session with far }.record records
  match outcome with
  | .error raised => next.fail line index work raised
  | .ok response => next.deliver index work response

def exchange (session : Session Far Held) (line : Line Far Held) (index : Nat) (work : Work)
    (ask : Ask) : Session Far Held :=
  let (far, records, outcome) := line.start ask session.far
  let next := { session with far, asked := (index, ask) :: session.asked }.record records
  match outcome with
  | .error raised => next.fail line index work raised
  | .ok (.ready, held) => next.finish line index work held
  | .ok (.turn, held) => (next.pause index (.sending held)).rouse index
  | .ok (.forever, held) => next.pause index (.sending held)
  | .ok (.gate name, held) =>
    if next.openGates.contains name then next.finish line index work held
    else { next.pause index (.sending held) with gated := next.gated ++ [(name, index)] }

/-! ### The capability list -/

def methodFor (list : Octets) : Method :=
  if postingCapabilities.any (Cache.advertises list) then .post else .get

def listed (session : Session Far Held) (line : Line Far Held) (index : Nat) (work : Work) :
    Ending Octets → Session Far Held
  | .cancelled => session.conclude index work .cancelled
  | .failed raised => session.fail line index work raised
  | .value list =>
    match work with
    | .call (.supports capability) _ =>
      session.conclude index work (.value (.truth (Cache.advertises list capability)))
    | .call (.enroll message) _ =>
      let method := methodFor list
      let selected := .transportSelected Operation.pkiOperation.name method.name
      (session.record [{ event := selected }]).exchange line index work
        ⟨method, ⟨some .pkiOperation, message⟩⟩
    | _ => session.conclude index work (.value (.octets list))

def read (session : Session Far Held) (line : Line Far Held) (index : Nat) (work : Work)
    (reader : Nat) : Session Far Held :=
  let next := session.move (.resume reader)
  match next.cache.readers[reader]? with
  | some (.finished ending) => next.listed line index work ending
  | some (.waiting flight) => (next.pause index (.listing reader)).watch index flight
  | none => next

def shut (session : Session Far Held) (index : Nat) (work : Work) (closer : Nat) :
    Session Far Held :=
  (session.move (.closed closer)).conclude index work (.value .nothing)

def isFlight (number : Nat) (task : Task Held) : Bool :=
  match task.work with
  | .flight other => other == number
  | .call .. => false

def shutDown (session : Session Far Held) (index : Nat) (work : Work) : Session Far Held :=
  let closer := session.cache.closers.length
  let next := session.move .close
  match next.cache.closing? closer with
  | none => next.conclude index work (.value .nothing)
  | some flight =>
    let stopped := match next.tasks.findIdx? (isFlight flight) with
      | some task => next.cancel task
      | none => next
    (stopped.pause index (.closing closer)).watch index flight

/-! ### Entries of the queue -/

/-- Sets the deadline of a task.  One that is not in the future passes at the
first opportunity. -/
def limit (session : Session Far Held) (index : Nat) (work : Work) : Session Far Held :=
  match work.operation?, session.deadlineOf work with
  | some _, some deadline =>
    if deadline.seconds ≤ 0 then session.post (.expire index)
    else { session with timers := session.timers ++ [(session.now + deadline.seconds, index)] }
  | _, _ => session

def beginTask (session : Session Far Held) (line : Line Far Held) (index : Nat)
    (task : Task Held) : Session Far Held :=
  let work := task.work
  match work with
  | .flight number =>
    let launched := session.move (.launch number)
    match launched.cache.ending? number with
    | some _ => (launched.pause index (.ended .cancelled)).announce number
    | none => (launched.limit index work).exchange line index work .capabilities
  | .call call _ =>
    if task.isCancelled then session.conclude index work .cancelled
    else
      let next := session.limit index work
      match call with
      | .list | .supports _ | .enroll _ =>
        let reader := next.cache.readers.length
        (next.move .ask).read line index work reader
      | .capabilities => next.exchange line index work .capabilities
      | .certificate => next.exchange line index work ⟨.get, ⟨some .getCaCert, []⟩⟩
      | .nextCertificate => next.exchange line index work ⟨.get, ⟨some .getNextCaCert, []⟩⟩
      | .close => next.shutDown index work

/-- Ends a task that was asked to stop, or whose deadline has passed, while it
waited.  Being asked to stop counts for more. -/
def unwind (session : Session Far Held) (line : Line Far Held) (index : Nat)
    (task : Task Held) : Session Far Held :=
  let next := match task.stage with
    | .listing reader => session.move (.abandon reader)
    | .closing closer => session.move (.quit closer)
    | _ => session
  if task.isCancelled then next.conclude index task.work .cancelled
  else next.fail line index task.work ⟨.plain .timeout "", none⟩

def goOn (session : Session Far Held) (line : Line Far Held) (index : Nat)
    (task : Task Held) : Session Far Held :=
  if task.isCancelled || task.hasExpired then session.unwind line index task
  else match task.stage with
    | .listing reader => session.read line index task.work reader
    | .sending held => session.finish line index task.work held
    | .closing closer => session.shut index task.work closer
    | .queued | .ended _ => session

def perform (session : Session Far Held) (line : Line Far Held) : Entry → Session Far Held
  | .begin index =>
    match session.tasks[index]? with
    | some task =>
      match task.stage with
      | .queued => session.beginTask line index task
      | _ => session
    | none => session
  | .relay index => session.rouse index
  | .wake index =>
    match session.tasks[index]? with
    | some task => if task.isRoused then session.goOn line index task else session
    | none => session
  | .expire index =>
    match session.tasks[index]? with
    | some task =>
      if task.isWaiting then
        (session.update index fun task => { task with hasExpired := true }).rouse index
      else session
    | none => session
  | .report => session.post .caller
  | .caller => session

/-! ### Running -/

def ending? (session : Session Far Held) (index : Nat) : Option (Ending Result) :=
  session.tasks[index]?.bind Task.ending?

def isOver (session : Session Far Held) (index : Nat) : Bool := (session.ending? index).isSome

def advance (session : Session Far Held) : Session Far Held :=
  let timers := session.timers.filter fun timer => !session.isOver timer.2
  match timers with
  | [] => { session with timers }
  | first :: rest =>
    let due := rest.foldl (fun due timer => if timer.1 < due then timer.1 else due) first.1
    let (past, coming) := timers.partition fun timer => timer.1 ≤ due
    { session with
      now := due
      timers := coming
      queue := session.queue ++ past.map fun timer => .expire timer.2 }

def drain (line : Line Far Held) : Nat → Session Far Held → Session Far Held
  | 0, session => session
  | fuel + 1, session =>
    match session.queue with
    | [] => session
    | entry :: rest => drain line fuel ({ session with queue := rest }.perform line entry)

/-- Performs entries, and lets time pass when there are none, until the one who
waits for a task from outside goes on.  As with a fetch, the end of the task is
told first, and whoever was told goes on after all that could run by then. -/
def await (line : Line Far Held) (awaited : Nat) : Nat → Session Far Held → Session Far Held
  | 0, session => session
  | fuel + 1, session =>
    match session.queue with
    | [] =>
      let later := session.advance
      if later.queue.isEmpty then later else await line awaited fuel later
    | .caller :: rest => { session with queue := rest }
    | entry :: rest =>
      let next := { session with queue := rest }.perform line entry
      let ended := !session.isOver awaited && next.isOver awaited
      await line awaited fuel (if ended then next.post .report else next)

/-- More entries than a session can give rise to before it comes to rest. -/
def fuel (session : Session Far Held) : Nat :=
  32 * (session.tasks.length + session.queue.length + session.timers.length + 1)

def settle (session : Session Far Held) (line : Line Far Held) : Session Far Held :=
  drain line session.fuel session

def release (session : Session Far Held) (gate : String) : Session Far Held :=
  let (freed, others) := session.gated.partition fun entry => entry.1 == gate
  let opened := { session with openGates := gate :: session.openGates, gated := others }
  freed.foldl (fun session entry => session.rouse entry.2) opened

def join (session : Session Far Held) (line : Line Far Held) (task : Nat) : Session Far Held :=
  if session.isOver task then session else await line task session.fuel session

end Session

end Scep
