import Scep.Client.Basic
import Scep.Proofs.Cache.Running
import Scep.Proofs.Client.Telling
import Scep.Proofs.Exchange.Body
import Scep.Proofs.Exchange.Stream

/-!
What the callers of a client are told of faults.

A fault strikes an exchange when its request is sent or while the body of the
answer streams in.  What the caller is told follows from the kind of the fault,
from where it struck and from the status of the answer.  It is told once: a call
that waits for a fetch passes on what the fetch has told.
-/

namespace Scep

/-! ### Faults of the connection -/

def NetworkFault.timeouts : List NetworkFault :=
  [.timeoutException, .connectTimeout, .readTimeout, .writeTimeout, .poolTimeout]

def NetworkFault.disconnections : List NetworkFault :=
  [.transportError, .networkError, .protocolError, .readError, .writeError, .connectError,
    .closeError, .localProtocolError, .remoteProtocolError, .proxyError, .unsupportedProtocol]

def NetworkFault.breaks : List NetworkFault := [.readError, .remoteProtocolError, .decodingError]

/-- A fault says that time ran out, at the client itself or in its transport. -/
inductive Fault.RunsOut : Fault → Prop where
  | here (message : String) : RunsOut (.plain .timeout message)
  | far {kind : NetworkFault} (timeout : kind ∈ NetworkFault.timeouts) (message : String) :
    RunsOut (.network kind message)

/-- What is told is not told in other words again. -/
structure Raised.IsSettled (raised : Raised) : Prop where
  inTime : ¬raised.fault.RunsOut
  connected : ∀ kind ∈ NetworkFault.disconnections, ∀ message,
    raised.fault ≠ .network kind message

theorem NetworkFault.isTimeout_iff (kind : NetworkFault) :
    kind.isTimeout = true ↔ kind ∈ timeouts := by
  cases kind <;> decide

theorem NetworkFault.isTransport_iff (kind : NetworkFault) :
    kind.isTransport = true ↔ kind ∈ timeouts ∨ kind ∈ disconnections := by
  cases kind <;> decide

theorem NetworkFault.breaksBody_iff (kind : NetworkFault) :
    kind.breaksBody = true ↔ kind ∈ breaks := by
  cases kind <;> decide

private theorem NetworkFault.isTimeout_of_disconnection {kind : NetworkFault}
    (fails : kind ∈ disconnections) : kind.isTimeout = false := by
  revert fails
  cases kind <;> decide

private theorem NetworkFault.breaksBody_of_timeout {kind : NetworkFault}
    (timeout : kind ∈ timeouts) :
    kind.breaksBody = false := by
  revert timeout
  cases kind <;> decide

namespace Fault.RunsOut

variable {fault : Fault}

private theorem isTimeout (late : fault.RunsOut) : fault.isTimeout = true := by
  cases late with
  | here message => rfl
  | far timeout message => exact (NetworkFault.isTimeout_iff _).mpr timeout

private theorem of_isTimeout (late : fault.isTimeout = true) : fault.RunsOut := by
  cases fault with
  | network kind message => exact .far ((NetworkFault.isTimeout_iff kind).mp late) message
  | plain kind message =>
      cases kind with
      | timeout => exact .here message
      | _ => cases late
  | _ => cases late

private theorem breaksBody (late : fault.RunsOut) : fault.breaksBody = false := by
  cases late with
  | here message => rfl
  | far timeout message => exact NetworkFault.breaksBody_of_timeout timeout

end Fault.RunsOut

namespace Raised

variable {raised : Raised} {operation : Operation} {deadline : Option Deadline}

private theorem IsSettled.of_isTransport (inTime : raised.fault.isTimeout = false)
    (connected : raised.fault.isTransport = false) : raised.IsSettled where
  inTime late := by
    rw [late.isTimeout] at inTime
    cases inTime
  connected kind fails message same := by
    have disconnected := (NetworkFault.isTransport_iff kind).mpr (Or.inr fails)
    rw [same, Fault.isTransport, disconnected] at connected
    cases connected

private theorem during_isSettled (operation : Operation) (deadline : Option Deadline)
    (raised : Raised) :
    (Raised.during operation deadline raised).IsSettled := by
  unfold during
  split
  · exact .of_isTransport rfl rfl
  · split
    · exact .of_isTransport rfl rfl
    · exact .of_isTransport (Bool.eq_false_iff.mpr ‹_›) (Bool.eq_false_iff.mpr ‹_›)

private theorem IsSettled.during (settled : raised.IsSettled) :
    Raised.during operation deadline raised = raised := by
  obtain ⟨fault, origin⟩ := raised
  have inTime : fault.isTimeout = false :=
    Bool.eq_false_iff.mpr fun late => settled.inTime (.of_isTimeout late)
  have connected : fault.isTransport = false := by
    cases fault with
    | network kind message =>
        refine Bool.eq_false_iff.mpr fun transport => ?_
        rcases (NetworkFault.isTransport_iff kind).mp transport with timeout | fails
        · exact settled.inTime (.far timeout message)
        · exact settled.connected kind fails message rfl
    | _ => rfl
  simp only [Raised.during, inTime, connected, Bool.false_eq_true, if_false]

end Raised

namespace Client

/-! ### Faults in an exchange -/

/-- How far an exchange has come: its request is being sent, or the body of the
answer has come in up to some octets. -/
inductive Phase where
  | sending
  | streaming (delivery : Delivery) (octets : Octets)

variable {Far Held : Type} {client : Client} {transport : Transport Far Held}
  {session : Session (Wire Far) (Pending Held)} {index : Nat} {work : Session.Work}
  {pending : Pending Held} {operation : Operation} {due : Option Deadline}
  {phase : Phase} {fault : Fault} {told : Raised}

/-- A fault strikes an exchange by what the transport brings for it: the fault
itself, a redirection to no place, or a body that ends in the fault and has not
gone beyond its limit. -/
inductive Strikes (pending : Pending Held) : Except Fault Delivery → Phase → Fault → Prop where
  | unanswered (fault : Fault) : Strikes pending (.error fault) .sending fault
  | misplaced {delivery : Delivery} {fault : Fault}
    (misplaced : Redirect.fault? pending.url delivery = some fault) :
    Strikes pending (.ok delivery) .sending fault
  | broken {delivery : Delivery} {octets : Octets} {fault : Fault}
    (placed : Redirect.fault? pending.url delivery = none)
    (ends : delivery.stream = (octets, some fault))
    (within : octets.length ≤ delivery.readLimit) :
    Strikes pending (.ok delivery) (.streaming delivery octets) fault

def Phase.raise : Phase → Fault → Raised
  | .sending, fault => ⟨fault, none⟩
  | .streaming delivery octets, fault => delivery.broken octets fault

theorem receive_strikes {wire : Wire Far}
    (strikes : Strikes pending (transport.receive pending.held wire.far).2.2 phase fault) :
    ∃ wire' records, receive transport pending wire = (wire', records, .error (phase.raise fault)) := by
  rcases brought : transport.receive pending.held wire.far with ⟨far, records, outcome⟩
  rw [brought] at strikes
  dsimp only at strikes
  cases strikes with
  | unanswered => exact ⟨{ wire with far }, records, by simp only [receive, brought]; rfl⟩
  | misplaced misplaced =>
      exact ⟨{ wire with far }, records, by simp only [receive, brought, misplaced]; rfl⟩
  | broken placed ends within =>
      refine ⟨{ wire with far }, records, ?_⟩
      simp only [receive, brought, placed, Delivery.receive_broken _ ends within]
      rfl

/-! ### What is told -/

/-- What a call of an operation with a deadline tells of a fault. -/
inductive Tells (operation : Operation) (due : Option Deadline) :
    Phase → Fault → Raised → Prop where
  | late (phase : Phase) {fault : Fault} (late : fault.RunsOut) :
    Tells operation due phase fault
      ⟨.failure (.deadlineExceeded operation.name (Deadline.shown due)), some fault⟩
  | unsent {kind : NetworkFault} (fails : kind ∈ NetworkFault.disconnections) (message : String) :
    Tells operation due .sending (.network kind message)
      ⟨.failure (.transport operation.name kind.className message), some (.network kind message)⟩
  /-- The connection fails while a body streams in, and not by breaking it off. -/
  | lost {kind : NetworkFault} (delivery : Delivery) (octets : Octets)
    (fails : kind ∈ NetworkFault.disconnections) (whole : kind ∉ NetworkFault.breaks)
    (message : String) :
    Tells operation due (.streaming delivery octets) (.network kind message)
      ⟨.failure (.transport operation.name kind.className message), some (.network kind message)⟩
  | unread {kind : NetworkFault} {delivery : Delivery} (octets : Octets)
    (breaks : kind ∈ NetworkFault.breaks)
    (fine : delivery.status < 400) (message : String) :
    Tells operation due (.streaming delivery octets) (.network kind message)
      ⟨.failure (.readFailed message), some (.network kind message)⟩
  /-- The body of an error breaks off, which is told as far as it came. -/
  | refused {kind : NetworkFault} {delivery : Delivery} (octets : Octets)
    (breaks : kind ∈ NetworkFault.breaks)
    (failed : 400 ≤ delivery.status) (message : String) :
    Tells operation due (.streaming delivery octets) (.network kind message)
      ⟨.failure (.httpStatus delivery.status delivery.phrase
        (String.ofList (Text.Utf8.decodeLossy octets))), none⟩

private theorem Phase.raise_of_runsOut (phase : Phase) (late : fault.RunsOut) :
    phase.raise fault = ⟨fault, none⟩ := by
  cases phase with
  | sending => rfl
  | streaming delivery octets =>
      rw [Phase.raise, Delivery.broken, late.breaksBody]
      rfl

private theorem during_disconnected {kind : NetworkFault}
    (fails : kind ∈ NetworkFault.disconnections) (message : String) :
    Raised.during operation due ⟨.network kind message, none⟩ =
      ⟨.failure (.transport operation.name kind.className message),
        some (.network kind message)⟩ := by
  have inTime : (Fault.network kind message).isTimeout = false :=
    NetworkFault.isTimeout_of_disconnection fails
  have transport : (Fault.network kind message).isTransport = true :=
    (NetworkFault.isTransport_iff kind).mpr (Or.inr fails)
  simp only [Raised.during, inTime, transport, Bool.false_eq_true, if_false, if_true]
  rfl

private theorem Tells.during (tells : Tells operation due phase fault told) :
    Raised.during operation due (phase.raise fault) = told := by
  cases tells with
  | late phase late =>
      rw [phase.raise_of_runsOut late, Raised.during, late.isTimeout]
      rfl
  | unsent fails message => exact during_disconnected fails message
  | @lost kind delivery octets fails whole message =>
      have whole : (Fault.network kind message).breaksBody = false :=
        Bool.eq_false_iff.mpr fun breaks => whole ((NetworkFault.breaksBody_iff kind).mp breaks)
      rw [Phase.raise, Delivery.broken, whole]
      exact during_disconnected fails message
  | @unread kind delivery octets breaks fine message =>
      have breaks : (Fault.network kind message).breaksBody = true :=
        (NetworkFault.breaksBody_iff kind).mpr breaks
      simp only [Phase.raise, Delivery.broken, breaks, if_neg (Int.not_le.mpr fine), if_true]
      rfl
  | @refused kind delivery octets breaks failed message =>
      have breaks : (Fault.network kind message).breaksBody = true :=
        (NetworkFault.breaksBody_iff kind).mpr breaks
      simp only [Phase.raise, Delivery.broken, breaks, if_pos failed, if_true]
      rfl

private theorem Tells.wordless {other : Phase} {also : Fault} {heard : Raised}
    (tells : Tells operation due phase fault told) (late : fault.RunsOut)
    (hears : Tells operation due other also heard) (later : also.RunsOut) :
    told.fault = heard.fault := by
  rw [← tells.during, ← hears.during, phase.raise_of_runsOut late, other.raise_of_runsOut later]
  simp only [Raised.during, late.isTimeout, later.isTimeout, if_true]

/-! ### Runs -/

private theorem told_of_operation (named : work.operation? = some operation)
    (deadline : Option Deadline) (raised : Raised) :
    work.told (client.line transport) deadline raised =
      Raised.during operation (work.due deadline) raised := by
  rw [Session.Work.told, named]
  rfl

private theorem told_of_isSettled {raised : Raised} (settled : raised.IsSettled)
    (work : Session.Work) (deadline : Option Deadline) :
    work.told (client.line transport) deadline raised = raised := by
  cases named : work.operation? with
  | none => rw [Session.Work.told, named]
  | some operation => rw [told_of_operation named, settled.during]

def telling (client : Client) (transport : Transport Far Held) :
    Session.Telling (client.line transport) where
  told := Raised.IsSettled
  asks pending operation := pending.request.operation = operation
  tells := Raised.during_isSettled
  starts {ask before after records wait held} started := by
    cases made : Outgoing.ofRequest ask.method.name client.url ask.request with
    | error raised =>
        simp only [line, send, made] at started
        cases started
    | ok outgoing =>
        simp only [line, send, made] at started
        cases started
        rfl
  finishes {pending before after records response} finished := by
    rcases brought : transport.receive pending.held before.far with ⟨far, noted, outcome⟩
    cases outcome with
    | error fault =>
        simp only [line, receive, brought] at finished
        cases finished
    | ok delivery =>
        cases placed : Redirect.fault? pending.url delivery with
        | some fault =>
            simp only [line, receive, brought, placed] at finished
            cases finished
        | none =>
            cases received : (delivery.receive pending.request.operation).outcome with
            | error raised =>
                simp only [line, receive, brought, placed, received] at finished
                cases finished
            | ok answer =>
                simp only [line, receive, brought, placed, received] at finished
                cases finished
                exact (Delivery.of_receive_eq_ok received).2.2.2

/-- What the callers of a client are told of faults, in every exchange and in
every run. -/
structure TranslatesFaults (client : Client) (transport : Transport Far Held) : Prop where
  struck {session : Session (Wire Far) (Pending Held)} {index : Nat} {work : Session.Work}
    {pending : Pending Held} {operation : Operation} {phase : Phase} {fault : Fault}
    {told : Raised} :
    session.deadline = client.deadline → session.core.work? index = some work →
      work.operation? = some operation →
      Strikes pending (transport.receive pending.held session.far.far).2.2 phase fault →
      Tells operation (work.due client.deadline) phase fault told →
      (session.finish (client.line transport) index work pending).ending? index =
        some (.failed told)
  /-- A fault in the exchange of a fetch is told with the deadline of the client,
  and the fetch ends in what is told. -/
  fetched {session : Session (Wire Far) (Pending Held)} {index number : Nat}
    {pending : Pending Held} {phase : Phase} {fault : Fault} {told : Raised} :
    session.deadline = client.deadline → session.cache.IsRunning number →
      Strikes pending (transport.receive pending.held session.far.far).2.2 phase fault →
      Tells .getCaCaps client.deadline phase fault told →
      (session.finish (client.line transport) index (.flight number) pending).cache.ending?
        number = some (.failed told)
  wordless {operation : Operation} {due : Option Deadline} {phase other : Phase}
    {fault also : Fault} {told heard : Raised} :
    Tells operation due phase fault told → fault.RunsOut →
      Tells operation due other also heard → also.RunsOut → told.fault = heard.fault
  expired {session : Session (Wire Far) (Pending Held)} {index : Nat}
    {task : Session.Task (Pending Held)} {operation : Operation} {told : Raised} :
    session.deadline = client.deadline → session.tasks[index]? = some task →
      task.work.operation? = some operation → task.isCancelled = false →
      task.hasExpired = true →
      Tells operation (task.work.due client.deadline) .sending (.plain .timeout "") told →
      (session.goOn (client.line transport) index task).ending? index = some (.failed told)
  passed {session : Session (Wire Far) (Pending Held)} {index : Nat} {work : Session.Work}
    {pending : Pending Held} {failure : Failure} {origin : Option Fault} :
    session.core.work? index = some work →
      (receive transport pending session.far).2.2 = .error ⟨.failure failure, origin⟩ →
      (session.finish (client.line transport) index work pending).ending? index =
        some (.failed ⟨.failure failure, origin⟩)
  deadline (far : Far) (happenings : List Session.Happening) :
    ((client.session far).run (client.line transport) happenings).deadline = client.deadline
  named (far : Far) (happenings : List Session.Happening) {index : Nat} {work : Session.Work}
    {pending : Pending Held} :
    ((client.session far).run (client.line transport) happenings).core.jobs[index]? =
        some (work, .sending pending) →
      pending.request.operation = work.operation?
  /-- No timeout and no fault of the connection comes to a caller untold. -/
  settled (far : Far) (happenings : List Session.Happening) {index : Nat} {work : Session.Work}
    {raised : Raised} :
    ((client.session far).run (client.line transport) happenings).core.jobs[index]? =
        some (work, .ended (.failed raised)) →
      work.operation? ≠ none → raised.IsSettled
  /-- A call that waits for a fetch is told exactly what the fetch has told. -/
  heard (far : Far) (happenings : List Session.Happening) {index reader flight : Nat}
    {call : Call} {own : Option Deadline} {raised : Raised} :
    let session := (client.session far).run (client.line transport) happenings
    session.tasks[index]? =
        some { work := .call call own, stage := .listing reader, isRoused := true } →
      session.cache.awaited? reader = some flight →
      session.cache.ending? flight = some (.failed raised) →
      raised.IsSettled ∧
        (session.perform (client.line transport) (.wake index)).ending? index =
          some (.failed raised)

private theorem finish_strikes (does : session.core.work? index = some work)
    (named : work.operation? = some operation)
    (strikes : Strikes pending (transport.receive pending.held session.far.far).2.2 phase fault)
    (tells : Tells operation (work.due session.deadline) phase fault told) :
    (session.finish (client.line transport) index work pending).ending? index =
      some (.failed told) := by
  obtain ⟨wire, records, received⟩ := receive_strikes strikes
  rw [Session.ending?_finish does received, told_of_operation named, tells.during]

private theorem holds_run (client : Client) (transport : Transport Far Held) (far : Far)
    (happenings : List Session.Happening) :
    (client.telling transport).Holds
      ((client.session far).run (client.line transport) happenings).core :=
  (Session.Telling.Holds.start _ _).run happenings

/-- Whatever the calls and the transport do, faults are told as the table says. -/
theorem translatesFaults (client : Client) (transport : Transport Far Held) :
    client.TranslatesFaults transport where
  struck {session _ _ _ _ _ _ _} kept does named strikes tells := by
    rw [← kept] at tells
    exact finish_strikes does named strikes tells
  fetched {session _ number _ _ _ _} kept runs strikes tells := by
    obtain ⟨wire, records, received⟩ := receive_strikes strikes
    rw [← kept] at tells
    have named : (Session.Work.flight number).operation? = some .getCaCaps := rfl
    rw [Session.ending?_finish_flight runs received, told_of_operation named]
    exact congrArg (fun told => some (Ending.failed told)) tells.during
  wordless tells late hears later := tells.wordless late hears later
  expired {session _ task _ _} kept found named stays late tells := by
    rw [Session.ending?_goOn_expired found stays late, told_of_operation named, kept]
    exact congrArg (fun told => some (Ending.failed told)) tells.during
  passed {session _ work pending failure origin} does refused := by
    rcases received : receive transport pending session.far with ⟨wire, records, outcome⟩
    rw [received] at refused
    dsimp only at refused
    subst refused
    have settled : (⟨.failure failure, origin⟩ : Raised).IsSettled := .of_isTransport rfl rfl
    rw [Session.ending?_finish does received, told_of_isSettled settled]
  deadline far happenings := (Session.goes_run _ (client.session far) happenings).deadline
  named far happenings _ _ _ placed := (holds_run client transport far happenings).sending placed
  settled far happenings _ _ _ placed operated :=
    (holds_run client transport far happenings).ended placed operated
  heard far happenings _ _ _ _ _ _ := by
    intro session stands awaits ended
    have settled := (holds_run client transport far happenings).landed ended
    refine ⟨settled, ?_⟩
    rw [Session.perform_wake_failed stands awaits ended, told_of_isSettled settled]

/-- A body that stops coming in before the deadline of its call. -/
theorem translatesFaults_late :
    let client : Client := ⟨{ host := "ca".toList }, some ⟨"30.0", 30⟩⟩
    let work : Session.Work := .call .certificate (some ⟨"0.5", 0.5⟩)
    let delivery : Delivery :=
      { status := 200, pieces := [[1, 2, 3]], fault := some (.network .readTimeout "socket") }
    let transport : Transport Unit Unit :=
      ⟨fun _ far => (far, .ready, ()), fun _ far => (far, [], .ok delivery)⟩
    let pending : Pending Unit := ⟨⟨some .getCaCert, []⟩, client.url, ()⟩
    ((((client.session ()).add work).finish (client.line transport) 0 work pending).ending? 0 =
      some (.failed ⟨.failure (.deadlineExceeded "GetCACert" "0.5"),
        some (.network .readTimeout "socket")⟩)) := by
  intro client work delivery transport pending
  have strikes : Strikes pending (transport.receive pending.held ()).2.2
      (.streaming delivery [1, 2, 3]) (.network .readTimeout "socket") :=
    .broken rfl rfl (by decide)
  exact (translatesFaults client transport).struck rfl rfl rfl strikes
    (.late _ (.far (by decide) "socket"))

end Client

end Scep
