import Scep.Proofs.Client.Certificates
import Scep.Proofs.Responder.Visit

/-!
Several responders in one place.

Each responder keeps its own routes, and all of them perform operations by the
service of the one that was created last.  So a responder answers as if it were
alone exactly as long as that service does for every operation what its own would
do, and surely if nothing was created after it.
-/

namespace Scep

variable {State : Type}

/-! ### Services that answer alike -/

/-- In a state, every operation comes to the same by either service. -/
structure Service.Alike (first second : Service State) (state : State) : Prop where
  capabilities : first.capabilityList = second.capabilityList
  certificates : first.certificates.1 = second.certificates.1
  chain : MediaType.ofAnswer (some .getCaCert) first.certificates.2 =
    MediaType.ofAnswer (some .getCaCert) second.certificates.2
  enroll : ∀ message, (first.perform .pkiOperation message state).2 =
    (second.perform .pkiOperation message state).2
  nextCertificate : (first.perform .getNextCaCert [] state).2 =
    (second.perform .getNextCaCert [] state).2

theorem Service.Alike.refl (service : Service State) (state : State) :
    service.Alike service state :=
  ⟨rfl, rfl, rfl, fun _ => rfl, rfl⟩

/-- What a handler made of its task, told by the answer and the records. -/
def Served.outcome (served : Served) : Except Fault Octets :=
  match served.escaped, served.records.map Audit.Record.event with
  | some fault, _ => .error fault
  | none, .error fault _ :: _ => .error fault
  | none, _ => .ok served.page.body

section Alike

variable {first second : Service State} {state : State} {arrival : Arrival} {pulled : Nat}

private theorem Served.outcome_conclude (operation : Operation) (outcome : Except Fault Octets) :
    (Route.conclude arrival operation pulled
      (outcome.map fun data => { operation := some operation, data })).outcome = outcome := by
  cases outcome with
  | ok data => rfl
  | error fault => cases fault <;> rfl

private theorem Service.handle_outcome (service : Service State) (operation : Operation)
    (task : Handler State → State → State × Except Fault Octets) (state : State) :
    ∃ outcome : Except Fault Octets, (service.handle operation task state).2 =
      outcome.map fun data => { operation := some operation, data } := by
  unfold handle
  cases service.handler with
  | none => exact ⟨.error _, rfl⟩
  | some handler => exact ⟨(task handler state).2, rfl⟩

private theorem Service.handle_of_conclude {operation : Operation}
    {task : Handler State → State → State × Except Fault Octets}
    (same : Route.conclude arrival operation pulled (first.handle operation task state).2 =
      Route.conclude arrival operation pulled (second.handle operation task state).2) :
    (first.handle operation task state).2 = (second.handle operation task state).2 := by
  obtain ⟨left, known⟩ := first.handle_outcome operation task state
  obtain ⟨right, other⟩ := second.handle_outcome operation task state
  rw [known, other] at same ⊢
  have outcomes := congrArg Served.outcome same
  rw [Served.outcome_conclude, Served.outcome_conclude] at outcomes
  rw [outcomes]

private theorem Route.conclude_of_alike (alike : first.Alike second state) (operation : Operation)
    (message : Octets) :
    conclude arrival operation pulled (first.perform operation message state).2 =
      conclude arrival operation pulled (second.perform operation message state).2 := by
  cases operation with
  | getCaCaps => simp only [Service.perform, alike.capabilities]
  | getCaCert =>
      simp only [Service.perform, conclude, Answer.ofResponse, alike.certificates, alike.chain]
  | pkiOperation => rw [alike.enroll message]
  | getNextCaCert => exact congrArg _ alike.nextCertificate

private theorem Route.serve_of_alike (alike : first.Alike second state) :
    (serve first arrival state).2 = (serve second arrival state).2 := by
  cases known : Operation.ofName? arrival.asked with
  | none => rw [serve_unknown known, serve_unknown known]
  | some operation =>
      rw [Arrival.asked] at known
      cases carried : message arrival (readBody arrival) with
      | error raised => simp only [serve, known, carried]
      | ok octets =>
          simp only [serve, known, carried]
          exact conclude_of_alike alike operation octets

end Alike

namespace Host

def question (path : List Char) (operation : Operation) (message : Octets) : Arrival where
  method := Method.get.name
  host := ""
  path
  query := Text.Utf8.encode (Query.render
    [("operation", operation.name), ("message", String.ofList (Base64.encode message))])
  mark := ""

variable {responder : Responder} {first second : Service State} {state : State}

private theorem serve_question (free : responder.IsFree responder.path) (service : Service State)
    (operation : Operation) (message : Octets) (state : State) :
    let arrival := question responder.path operation message
    ((Host.mk (some service)).serve responder arrival state).2 =
      Route.conclude arrival operation 0 (service.perform operation message state).2 := by
  intro arrival
  have params : arrival.params =
      [("operation", operation.name), ("message", String.ofList (Base64.encode message))] :=
    Arrival.params_of_render rfl
  have known : Operation.ofName? arrival.asked = some operation := by
    rw [Arrival.asked, params]
    exact Operation.ofName?_name operation
  have carried : arrival.carried .get = .ok message := by
    rw [Arrival.carried, params]
    exact Message.ofQueryValue_encode message
  rw [serve_operations rfl ⟨Responder.leadsTo_self responder.path, free⟩ .get rfl,
    Route.serve_performed rfl known carried]
  rfl

private theorem serve_aside {arrival : Arrival}
    (aside : responder.find arrival.method arrival.path ≠ .endpoint .operations)
    (host other : Host State) (state : State) :
    host.serve responder arrival state = other.serve responder arrival state := by
  unfold serve
  cases found : responder.find arrival.method arrival.path with
  | endpoint endpoint =>
      cases endpoint with
      | own page => rfl
      | operations => exact absurd found aside
      | health => rfl
  | otherMethods allowed => rfl
  | elsewhere path => rfl
  | nothing => rfl

private theorem serve_of_alike (alike : first.Alike second state) (arrival : Arrival) :
    ((Host.mk (some first)).serve responder arrival state).2 =
      ((Host.mk (some second)).serve responder arrival state).2 := by
  by_cases found : responder.find arrival.method arrival.path = .endpoint .operations
  · simp only [serve, found]
    exact Route.serve_of_alike alike
  · exact congrArg Prod.snd (serve_aside found _ _ state)

/-- One question an operation, and one a message for enrolling, tells two services
apart unless they answer alike. -/
theorem alike_of_serve_eq (free : responder.IsFree responder.path)
    (same : ∀ arrival, ((Host.mk (some first)).serve responder arrival state).2 =
      ((Host.mk (some second)).serve responder arrival state).2) :
    first.Alike second state := by
  have concluded : ∀ operation message,
      let arrival := question responder.path operation message
      Route.conclude arrival operation 0 (first.perform operation message state).2 =
        Route.conclude arrival operation 0 (second.perform operation message state).2 := by
    intro operation message arrival
    have answered := same arrival
    rwa [serve_question free, serve_question free] at answered
  have pages := fun operation => congrArg Served.page (concluded operation [])
  exact {
    capabilities := congrArg Page.body (pages .getCaCaps)
    certificates := congrArg Page.body (pages .getCaCert)
    chain := by
      have fields := congrArg Page.fields (pages .getCaCert)
      exact congrArg Prod.snd (List.cons.inj (List.cons.inj fields).2).1
    enroll := fun message => Service.handle_of_conclude (concluded .pkiOperation message)
    nextCertificate := Service.handle_of_conclude (concluded .getNextCaCert []) }

end Host

/-! ### Calls for responders -/

structure Creation (State : Type) where
  files : Files
  settings : Settings
  handler : Option (Handler State)
  pages : List (List Char × Page)

/-- What a call alone would create: a service and the routes to it, or nothing if
the call fails. -/
def Creation.own? (creation : Creation State) : Option (Service State × Responder) :=
  match Certificate.Store.load creation.files creation.settings.ca with
  | .ok (store, _) =>
    let server := creation.settings.server
    some (⟨creation.settings.capabilities, store.payload, creation.handler⟩,
      ⟨server.path.toList, server.host, server.port, creation.pages⟩)
  | .error _ => none

/-- The service of the last call that did not fail. -/
def Creation.latest? (creations : List (Creation State)) : Option (Service State) :=
  (creations.filterMap Creation.own?).getLast?.map Prod.fst

namespace Creation

variable {creation : Creation State} {service : Service State} {responder : Responder}

theorem own?_of_load (creation : Creation State) {store : Certificate.Store} {event : Audit.Event}
    (loads : Certificate.Store.load creation.files creation.settings.ca = .ok (store, event)) :
    creation.own? =
      some (⟨creation.settings.capabilities, store.payload, creation.handler⟩,
        ⟨creation.settings.server.path.toList, creation.settings.server.host,
          creation.settings.server.port, creation.pages⟩) := by
  rw [own?, loads]

theorem own?_of_smallFile (held : creation.files = [(["ca.pem".toList], Host.smallFile)])
    (named : creation.settings.ca = ⟨some "ca.pem", []⟩) :
    creation.own? =
      some (⟨creation.settings.capabilities, (Host.smallCertificate.der, 1), creation.handler⟩,
        ⟨creation.settings.server.path.toList, creation.settings.server.host,
          creation.settings.server.port, creation.pages⟩) := by
  have loads := Certificate.Store.load_of_holds
    (show (Settings.Ca.mk (some "ca.pem") []).certFile = some "ca.pem" from rfl)
    (.cons Host.holds_smallFile .nil)
  rw [Host.subjectText_smallCertificate, ← held, ← named] at loads
  exact creation.own?_of_load loads

theorem create_of_own? (own : creation.own? = some (service, responder)) (host : Host State) :
    ∃ records, host.create creation.files creation.settings creation.handler creation.pages =
      .ok (⟨some service⟩, responder, records) := by
  unfold own? at own
  unfold Host.create
  cases loads : Certificate.Store.load creation.files creation.settings.ca with
  | error raised =>
      rw [loads] at own
      cases own
  | ok loaded =>
      rw [loads] at own
      cases own
      exact ⟨_, rfl⟩

private theorem create_of_own?_eq_none (failed : creation.own? = none) (host : Host State) :
    ∃ raised, host.create creation.files creation.settings creation.handler creation.pages =
      .error raised := by
  unfold own? at failed
  unfold Host.create
  cases loads : Certificate.Store.load creation.files creation.settings.ca with
  | error raised => exact ⟨raised, rfl⟩
  | ok loaded =>
      rw [loads] at failed
      cases failed

private theorem latest?_of_own? {before after : List (Creation State)}
    (own : creation.own? = some (service, responder))
    (failed : ∀ other ∈ after, other.own? = none) :
    latest? (before ++ creation :: after) = some service := by
  have none : after.filterMap own? = [] := List.filterMap_eq_nil_iff.mpr failed
  rw [latest?, List.filterMap_append, List.filterMap_cons_some own, none,
    List.getLast?_append_cons]
  rfl

private theorem latest?_append_of_failed {before : List (Creation State)}
    (failed : creation.own? = none) :
    latest? (before ++ [creation]) = latest? before := by
  rw [latest?, List.filterMap_append, List.filterMap_cons_none failed, List.filterMap_nil,
    List.append_nil, latest?]

private theorem exists_latest? {creations : List (Creation State)} (called : creation ∈ creations)
    (own : creation.own? = some (service, responder)) :
    ∃ latest, latest? creations = some latest := by
  have made : (service, responder) ∈ creations.filterMap own? :=
    List.mem_filterMap.mpr ⟨creation, called, own⟩
  rw [latest?, List.getLast?_eq_some_getLast (List.ne_nil_of_mem made)]
  exact ⟨_, rfl⟩

end Creation

/-! ### Histories -/

/-- Responders in the order of the calls for them, none for a call that failed,
with the place that they have in common and what their handlers keep. -/
structure Estate (State : Type) where
  host : Host State := {}
  responders : List (Option Responder) := []
  state : State

inductive Estate.Event (State : Type) where
  | create (creation : Creation State)
  | request (place : Nat) (arrival : Arrival)

def Estate.creations (events : List (Event State)) : List (Creation State) :=
  events.filterMap fun event =>
    match event with
    | .create creation => some creation
    | .request .. => none

namespace Estate

def answer? (estate : Estate State) (place : Nat) (arrival : Arrival) : Option (State × Served) :=
  estate.responders[place]?.join.map fun responder =>
    estate.host.serve responder arrival estate.state

def step (estate : Estate State) : Event State → Estate State
  | .create creation =>
    match estate.host.create creation.files creation.settings creation.handler creation.pages with
    | .ok (host, responder, _) =>
      { estate with host, responders := estate.responders ++ [some responder] }
    | .error _ => { estate with responders := estate.responders ++ [none] }
  | .request place arrival =>
    match estate.answer? place arrival with
    | some (state, _) => { estate with state }
    | none => estate

def run (estate : Estate State) (events : List (Event State)) : Estate State :=
  events.foldl step estate

structure Reflects (estate : Estate State) (creations : List (Creation State)) : Prop where
  service : estate.host.service = Creation.latest? creations
  responders : estate.responders = creations.map fun creation => creation.own?.map Prod.snd

namespace Reflects

variable {estate : Estate State} {creations : List (Creation State)}

private theorem step (reflects : estate.Reflects creations) (event : Event State) :
    (estate.step event).Reflects (creations ++ Estate.creations [event]) := by
  cases event with
  | create creation =>
      change Reflects _ (creations ++ [creation])
      cases own : creation.own? with
      | none =>
          obtain ⟨raised, failed⟩ := Creation.create_of_own?_eq_none own estate.host
          simp only [Estate.step, failed]
          constructor
          · rw [Creation.latest?_append_of_failed own]
            exact reflects.service
          · rw [List.map_append, reflects.responders, List.map_singleton, own]
            rfl
      | some made =>
          obtain ⟨records, created⟩ := Creation.create_of_own? own estate.host
          simp only [Estate.step, created]
          constructor
          · exact (Creation.latest?_of_own? own (by simp)).symm
          · rw [List.map_append, reflects.responders, List.map_singleton, own]
            rfl
  | request place arrival =>
      change Reflects _ (creations ++ [])
      rw [List.append_nil]
      simp only [Estate.step]
      split
      · exact ⟨reflects.service, reflects.responders⟩
      · exact reflects

private theorem run (reflects : estate.Reflects creations) (events : List (Event State)) :
    (estate.run events).Reflects (creations ++ Estate.creations events) := by
  induction events generalizing estate creations with
  | nil =>
      change Reflects estate (creations ++ [])
      rwa [List.append_nil]
  | cons event rest tail =>
      have split : Estate.creations ([event] ++ rest) =
          Estate.creations [event] ++ Estate.creations rest := List.filterMap_append
      change Reflects _ (creations ++ Estate.creations ([event] ++ rest))
      rw [split, ← List.append_assoc]
      exact tail (reflects.step event)

/-- A responder answers on its own routes by the service of the last call that did
not fail. -/
theorem answer? (reflects : estate.Reflects creations) {place : Nat}
    {creation : Creation State} {service latest : Service State} {responder : Responder}
    (called : creations[place]? = some creation)
    (own : creation.own? = some (service, responder))
    (last : Creation.latest? creations = some latest) (arrival : Arrival) :
    estate.answer? place arrival =
      some ((Host.mk (some latest)).serve responder arrival estate.state) := by
  have there : estate.responders[place]? = some (some responder) := by
    rw [reflects.responders, List.getElem?_map, called, Option.map_some, own]
    rfl
  have shared : estate.host = ⟨some latest⟩ := congrArg Host.mk (reflects.service.trans last)
  rw [Estate.answer?, there, shared]
  rfl

end Reflects

private theorem reflects_run (events : List (Event State)) (state : State) :
    ((Estate.mk {} [] state).run events).Reflects (creations events) :=
  @Reflects.run _ _ [] ⟨rfl, rfl⟩ events

private theorem answer?_alone {creation : Creation State} {service : Service State}
    {responder : Responder} (own : creation.own? = some (service, responder)) (state : State)
    (arrival : Arrival) :
    ((Estate.mk {} [] state).run [.create creation]).answer? 0 arrival =
      some ((Host.mk (some service)).serve responder arrival state) := by
  have kept : ((Estate.mk {} [] state).run [.create creation]).state = state := by
    obtain ⟨records, created⟩ := Creation.create_of_own? own (Host.mk none)
    simp only [run, List.foldl_cons, List.foldl_nil, step, created]
  have last : Creation.latest? ([] ++ [creation]) = some service :=
    Creation.latest?_of_own? own (by simp)
  rw [(reflects_run [.create creation] state).answer? rfl own last, kept]

/-- Whatever was created and asked before, a responder answers on its own routes,
but by the service of the last call that did not fail.  What is no operation it
answers as if it were alone.  It answers everything so if that service and its own
are alike, and only then unless its server hides the route, and they are the same if
no later call created anything. -/
theorem answers_alone_iff (events : List (Event State)) (state : State) {place : Nat}
    {creation : Creation State} {service : Service State} {responder : Responder}
    (called : (creations events)[place]? = some creation)
    (own : creation.own? = some (service, responder)) :
    let estate := (Estate.mk {} [] state).run events
    let alone := (Estate.mk {} [] estate.state).run [.create creation]
    ∃ latest, Creation.latest? (creations events) = some latest ∧
      (∀ arrival, estate.answer? place arrival =
        some ((Host.mk (some latest)).serve responder arrival estate.state)) ∧
      (∀ arrival, responder.find arrival.method arrival.path ≠ .endpoint .operations →
        estate.answer? place arrival = alone.answer? 0 arrival) ∧
      (latest.Alike service estate.state → ∀ arrival,
        (estate.answer? place arrival).map Prod.snd = (alone.answer? 0 arrival).map Prod.snd) ∧
      (responder.IsFree responder.path →
        ((∀ arrival, (estate.answer? place arrival).map Prod.snd =
          (alone.answer? 0 arrival).map Prod.snd) ↔ latest.Alike service estate.state)) ∧
      ((∀ other ∈ (creations events).drop (place + 1), other.own? = none) →
        latest = service) := by
  intro estate alone
  obtain ⟨latest, last⟩ := Creation.exists_latest? (List.mem_of_getElem? called) own
  have answers : ∀ arrival, estate.answer? place arrival = some _ :=
    (reflects_run events state).answer? called own last
  have answersAlone : ∀ arrival, alone.answer? 0 arrival = some _ := answer?_alone own estate.state
  have alike : latest.Alike service estate.state → ∀ arrival,
      (estate.answer? place arrival).map Prod.snd = (alone.answer? 0 arrival).map Prod.snd := by
    intro alike arrival
    rw [answers, answersAlone]
    exact congrArg some (Host.serve_of_alike alike arrival)
  refine ⟨latest, last, answers, ?_, alike, fun free => ⟨fun same => ?_, alike⟩, ?_⟩
  · intro arrival aside
    rw [answers, answersAlone, Host.serve_aside aside ⟨some latest⟩ ⟨some service⟩]
  · refine Host.alike_of_serve_eq free fun arrival => ?_
    have answered := same arrival
    rw [answers, answersAlone] at answered
    exact Option.some_inj.mp answered
  · intro failed
    have split : creations events =
        (creations events).take place ++ creation :: (creations events).drop (place + 1) := by
      obtain ⟨bound, here⟩ := List.getElem?_eq_some_iff.mp called
      rw [← here, ← List.drop_eq_getElem_cons bound, List.take_append_drop]
    rw [split, Creation.latest?_of_own? own failed] at last
    exact (Option.some.inj last).symm

def smallCreation (capabilities : List String) (handler : Option (Handler State)) :
    Creation State where
  files := [(["ca.pem".toList], Host.smallFile)]
  settings := { ca := ⟨some "ca.pem", []⟩, capabilities }
  handler
  pages := []

private theorem own?_smallCreation (capabilities : List String) (handler : Option (Handler State)) :
    (smallCreation capabilities handler).own? =
      some (⟨capabilities, (Host.smallCertificate.der, 1), handler⟩,
        ⟨"/scep".toList, "0.0.0.0", 8080, []⟩) :=
  Creation.own?_of_smallFile rfl rfl

/-- A second call for the same responder fails for want of a certificate. -/
theorem answers_alone_iff_failed :
    let creation : Creation Nat := smallCreation ["AES"] none
    let events := [.create creation, .create ⟨[], {}, none, []⟩,
      .request 0 (Host.question "/scep".toList .pkiOperation [1])]
    let estate := (Estate.mk {} [] 0).run events
    ∀ arrival, (estate.answer? 0 arrival).map Prod.snd =
      (((Estate.mk {} [] estate.state).run [.create creation]).answer? 0 arrival).map Prod.snd := by
  intro creation events estate
  have called : (creations events)[0]? = some creation := rfl
  have failed : ∀ other ∈ (creations events).drop 1, other.own? = none := by
    intro other later
    obtain rfl := List.mem_singleton.mp later
    rfl
  obtain ⟨latest, _, _, _, alike, _, unchanged⟩ :=
    answers_alone_iff events 0 called (own?_smallCreation ["AES"] none)
  obtain rfl := unchanged failed
  exact alike (.refl _ _)

/-- A responder without a handler shows the capabilities of the one that was
created after it, and enrolls with its handler. -/
theorem answers_overtaken :
    let handler : Handler Nat :=
      ⟨fun message state => (state, .ok message), fun state => (state, .ok [])⟩
    let creation : Creation Nat := smallCreation ["AES"] none
    let alone := (Estate.mk {} [] 0).run [.create creation]
    let estate := (Estate.mk {} [] 0).run
      [.create creation, .create (smallCreation ["SHA-256"] (some handler))]
    let list := Host.question "/scep".toList .getCaCaps []
    let enrollment := Host.question "/scep".toList .pkiOperation [1]
    (alone.answer? 0 list).map (·.2.page.body) = some (Text.Utf8.encode "AES".toList) ∧
      (estate.answer? 0 list).map (·.2.page.body) = some (Text.Utf8.encode "SHA-256".toList) ∧
      (alone.answer? 0 enrollment).map (·.2.page.status) = some 500 ∧
      (estate.answer? 0 enrollment).map (·.2.page.status) = some 200 := by
  intro handler creation alone estate list enrollment
  let second : Creation Nat := smallCreation ["SHA-256"] (some handler)
  have own : creation.own? = some _ := own?_smallCreation ["AES"] none
  have called : (creations [.create creation, .create second])[0]? = some creation := rfl
  have last : Creation.latest? ([creation] ++ [second]) = some _ :=
    Creation.latest?_of_own? (own?_smallCreation ["SHA-256"] (some handler)) (by simp)
  have answers : ∀ arrival, estate.answer? 0 arrival = some _ :=
    (reflects_run [.create creation, .create second] 0).answer? called own last
  have answersAlone : ∀ arrival, alone.answer? 0 arrival = some _ := answer?_alone own 0
  rw [answers, answers, answersAlone, answersAlone]
  have concluded : ∀ (service : Service Nat) (operation : Operation) (message : Octets)
      (state : Nat), ((Host.mk (some service)).serve ⟨"/scep".toList, "0.0.0.0", 8080, []⟩
        (Host.question "/scep".toList operation message) state).2 = _ :=
    Host.serve_question fun _ none => nomatch none
  have listed : ∀ (service : Service Nat) (state : Nat),
      (Route.conclude list .getCaCaps 0 (service.perform .getCaCaps [] state).2).page.body =
        service.capabilityList := fun _ _ => rfl
  simp only [Option.map_some, list, enrollment, concluded] at listed ⊢
  simp only [listed, Service.capabilityList, String.intercalate_singleton, true_and]
  exact ⟨rfl, rfl⟩

end Estate

end Scep
