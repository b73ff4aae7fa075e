import Scep.Proofs.Responder.Refusal

/-!
When a responder turns to its handler, and with what.

A handler may keep what it is asked to do.  A responder with such a handler
answers as it does with any other, so what is kept at the end says how often the
handler was asked, in which way, and with which message.  A request that is
refused is answered in the same way whatever the service is.
-/

namespace Scep

variable {State : Type}

inductive Visit where
  | enroll (message : Octets)
  | nextCertificate
  deriving DecidableEq, Repr

/-- A handler that keeps what it is asked to do, in order. -/
def Handler.visited (handler : Handler State) : Handler (State × List Visit) where
  enroll := fun message (state, visits) =>
    let (state, outcome) := handler.enroll message state
    ((state, visits ++ [.enroll message]), outcome)
  nextCertificate := fun (state, visits) =>
    let (state, outcome) := handler.nextCertificate state
    ((state, visits ++ [.nextCertificate]), outcome)

/-! ### Operations -/

theorem Operation.ofName?_eq_some_iff {text : String} {operation : Operation} :
    ofName? text = some operation ↔ text = operation.name := by
  constructor
  · intro found
    have same := List.find?_some (show all.find? (·.name == text) = some operation from found)
    exact (eq_of_beq same).symm
  · rintro rfl
    exact ofName?_name operation

theorem Operation.ofName?_eq_none_iff {text : String} :
    ofName? text = none ↔ ∀ operation : Operation, text ≠ operation.name := by
  rw [Option.eq_none_iff_forall_ne_some]
  exact forall_congr' fun operation => not_congr ofName?_eq_some_iff

def Operation.visit? (message : Octets) : Operation → Option Visit
  | .pkiOperation => some (.enroll message)
  | .getNextCaCert => some .nextCertificate
  | .getCaCaps | .getCaCert => none

theorem Operation.visit?_eq_enroll_iff {operation : Operation} {message octets : Octets} :
    operation.visit? message = some (.enroll octets) ↔
      operation = .pkiOperation ∧ message = octets := by
  cases operation <;> simp [visit?]

theorem Operation.visit?_eq_nextCertificate_iff {operation : Operation} {message : Octets} :
    operation.visit? message = some .nextCertificate ↔ operation = .getNextCaCert := by
  cases operation <;> simp [visit?]

private theorem Service.perform_visited (capabilities : List String) (certificates : Octets × Nat)
    (handler : Handler State) (operation : Operation) (message : Octets) (state : State)
    (visits : List Visit) :
    let performed :=
      (⟨capabilities, certificates, some handler⟩ : Service State).perform operation message state
    (⟨capabilities, certificates, some handler.visited⟩ : Service (State × List Visit)).perform
        operation message (state, visits) =
      ((performed.1, visits ++ (operation.visit? message).toList), performed.2) := by
  intro performed
  cases operation with
  | getCaCaps => exact congrArg (fun kept => ((state, kept), _)) (List.append_nil visits).symm
  | getCaCert => exact congrArg (fun kept => ((state, kept), _)) (List.append_nil visits).symm
  | pkiOperation => rfl
  | getNextCaCert => rfl

def Arrival.visit? (arrival : Arrival) (method : Method) : Option Visit :=
  match Operation.ofName? arrival.asked, arrival.carried method with
  | some operation, .ok message => operation.visit? message
  | _, _ => none

theorem Arrival.visit?_eq_some_iff {arrival : Arrival} {method : Method} {visit : Visit} :
    arrival.visit? method = some visit ↔ ∃ operation message,
      arrival.asked = Operation.name operation ∧ arrival.carried method = .ok message ∧
        operation.visit? message = some visit := by
  unfold visit?
  constructor
  · intro visited
    split at visited
    · rename_i operation message known carried
      exact ⟨operation, message, Operation.ofName?_eq_some_iff.mp known, carried, visited⟩
    · cases visited
  · rintro ⟨operation, message, named, carried, visited⟩
    rw [Operation.ofName?_eq_some_iff.mpr named, carried]
    exact visited

theorem Arrival.visit?_eq_enroll_iff {arrival : Arrival} {method : Method} {octets : Octets} :
    arrival.visit? method = some (.enroll octets) ↔
      arrival.asked = "PKIOperation" ∧ arrival.carried method = .ok octets := by
  rw [visit?_eq_some_iff]
  constructor
  · rintro ⟨operation, message, named, carried, visited⟩
    obtain ⟨rfl, rfl⟩ := Operation.visit?_eq_enroll_iff.mp visited
    exact ⟨named, carried⟩
  · rintro ⟨named, carried⟩
    exact ⟨.pkiOperation, octets, named, carried, rfl⟩

theorem Arrival.visit?_eq_nextCertificate_iff {arrival : Arrival} {method : Method} :
    arrival.visit? method = some .nextCertificate ↔
      arrival.asked = "GetNextCACert" ∧ ∃ octets, arrival.carried method = .ok octets := by
  rw [visit?_eq_some_iff]
  constructor
  · rintro ⟨operation, message, named, carried, visited⟩
    obtain rfl := Operation.visit?_eq_nextCertificate_iff.mp visited
    exact ⟨named, message, carried⟩
  · rintro ⟨named, message, carried⟩
    exact ⟨.getNextCaCert, message, named, carried, rfl⟩

namespace Route

variable {arrival : Arrival} {method : Method} {service : Service State} {state : State}
  {operation : Operation}

/-- A handler that keeps what it is asked to do makes no difference to the answer,
and keeps what the request is for. -/
theorem serve_visited (capabilities : List String) (certificates : Octets × Nat)
    (handler : Handler State) (asks : arrival.method = method.name) (state : State)
    (visits : List Visit) :
    let served := serve ⟨capabilities, certificates, some handler⟩ arrival state
    serve ⟨capabilities, certificates, some handler.visited⟩ arrival (state, visits) =
      ((served.1, visits ++ (arrival.visit? method).toList), served.2) := by
  intro served
  cases known : Operation.ofName? arrival.asked with
  | none =>
      simp only [served, serve_unknown known, Arrival.visit?, known, Option.toList_none,
        List.append_nil]
  | some operation =>
      cases carried : arrival.carried method with
      | error raised =>
          simp only [served, serve_unread asks known carried, Arrival.visit?, known, carried,
            Option.toList_none, List.append_nil]
      | ok octets =>
          simp only [served, serve_performed asks known carried, Service.perform_visited,
            Arrival.visit?, known, carried]

end Route

/-! ### Requests on the route -/

namespace Host

variable {arrival : Arrival} {responder : Responder} {method : Method}

/-- A request is given one answer whatever the service is, and no handler is
asked for anything. -/
def Refuses (responder : Responder) (arrival : Arrival) (answer : Served) : Prop :=
  ∀ {State : Type} (service : Service State) (state : State),
    (Host.mk (some service)).serve responder arrival state = (state, answer)

theorem Refuses.served {answer : Served} (refuses : Refuses responder arrival answer)
    (service : Service State) (state : State) :
    ((Host.mk (some service)).serve responder arrival state).2 = answer :=
  congrArg Prod.snd (refuses service state)

section Refuses

variable {operation : Operation} {raised : Raised}

theorem refuses_unknown (leads : responder.OperatesAt arrival.path)
    (asks : arrival.method = method.name) (unknown : Operation.ofName? arrival.asked = none) :
    Refuses responder arrival (Route.refuse 0 (.failure (.unknownOperation arrival.asked))) := by
  intro State service state
  rw [serve_operations rfl leads method asks, Route.serve_unknown unknown]

private theorem refuses_unread (leads : responder.OperatesAt arrival.path)
    (asks : arrival.method = method.name)
    (known : Operation.ofName? arrival.asked = some operation)
    (unread : arrival.carried method = .error raised) :
    Refuses responder arrival (Route.refuse (Route.readBody arrival).pulled raised.fault) := by
  intro State service state
  rw [serve_operations rfl leads method asks, Route.serve_unread asks known unread]

end Refuses

/-- A handler is asked at most once for a request, and for nothing but what the
request names: to process the message of an enrollment, or to give the next
certificate.  It is asked exactly if the message can be read.  All other requests
are refused without the service, those without a known operation before their
body is read. -/
theorem serve_visits (capabilities : List String) (certificates : Octets × Nat)
    (handler : Handler State) (leads : responder.OperatesAt arrival.path)
    (asks : arrival.method = method.name) (state : State) (visits : List Visit) :
    let served := (Host.mk (some ⟨capabilities, certificates, some handler⟩)).serve
      responder arrival state
    let seen := (Host.mk (some ⟨capabilities, certificates, some handler.visited⟩)).serve
      responder arrival (state, visits)
    (seen.1.1 = served.1 ∧ seen.2 = served.2) ∧
      (∃ visit : Option Visit, seen.1.2 = visits ++ visit.toList ∧
        (∀ octets, visit = some (.enroll octets) ↔
          arrival.asked = "PKIOperation" ∧ arrival.carried method = .ok octets) ∧
        (visit = some .nextCertificate ↔
          arrival.asked = "GetNextCACert" ∧ ∃ octets, arrival.carried method = .ok octets)) ∧
      ((∀ operation : Operation, arrival.asked ≠ operation.name) →
        served.2.page.status = 400 ∧ served.2.pulled = 0 ∧
          Refuses responder arrival served.2) ∧
      (∀ operation : Operation, arrival.asked = operation.name →
        (method = .post → payloadLimit < arrival.pieces.flatten.length →
          served.2.page.status = 413 ∧ Refuses responder arrival served.2) ∧
        ∀ raised, arrival.carried method = .error raised →
          Refuses responder arrival served.2) := by
  intro served seen
  have kept : seen = ((served.1, visits ++ (arrival.visit? method).toList), served.2) := by
    have routed : ∀ {Other : Type} (service : Service Other) (state : Other),
        (Host.mk (some service)).serve responder arrival state =
          Route.serve service arrival state :=
      fun _ state => serve_operations rfl leads method asks state
    simp only [seen, served, routed]
    exact Route.serve_visited capabilities certificates handler asks state visits
  have refused : ∀ {answer : Served}, Refuses responder arrival answer → served.2 = answer :=
    fun refuses => refuses.served _ state
  rw [kept]
  refine ⟨⟨rfl, rfl⟩, ⟨_, rfl, fun _ => Arrival.visit?_eq_enroll_iff,
    Arrival.visit?_eq_nextCertificate_iff⟩, ?_, fun operation named => ?_⟩
  · intro unnamed
    have refuses : Refuses responder arrival _ :=
      refuses_unknown leads asks (Operation.ofName?_eq_none_iff.mpr unnamed)
    rw [refused refuses]
    exact ⟨rfl, rfl, refuses⟩
  · have known := Operation.ofName?_eq_some_iff.mpr named
    constructor
    · rintro rfl beyond
      have unread : arrival.carried .post = .error _ := if_pos beyond
      have refuses : Refuses responder arrival _ := refuses_unread leads asks known unread
      rw [refused refuses]
      exact ⟨rfl, refuses⟩
    · intro raised unread
      have refuses : Refuses responder arrival _ := refuses_unread leads asks known unread
      rwa [refused refuses]

/-- Of two operations the last counts, and of two messages the one in the body. -/
theorem serve_visits_posted :
    let handler : Handler Nat :=
      ⟨fun _ state => (state + 1, .ok []), fun state => (state, .ok [])⟩
    let arrival : Arrival :=
      { method := "POST", host := "ca", path := "/scep".toList, mark := ""
        query := Text.Utf8.encode
          "operation=GetCACaps&operation=PKIOperation&message=%25%25%25".toList
        pieces := [[1], [2, 3]] }
    let responder : Responder := ⟨"/scep".toList, "0.0.0.0", 8080, []⟩
    let seen := (Host.mk (some ⟨[], ([], 0), some handler.visited⟩)).serve responder arrival (0, [])
    arrival.method = Method.post.name ∧ seen.1.2 = [.enroll [1, 2, 3]] := by
  intro handler arrival responder seen
  have params : arrival.params =
      [("operation", "GetCACaps"), ("operation", "PKIOperation"), ("message", "%%%")] := by cbv
  have asked : arrival.asked = "PKIOperation" := by
    rw [Arrival.asked, params]
    decide
  have carried : arrival.carried .post = .ok [1, 2, 3] := by
    rw [Arrival.carried, Message.ofBody]
    decide
  have leads : responder.OperatesAt arrival.path := by decide
  have asks : arrival.method = Method.post.name := rfl
  obtain ⟨_, ⟨visit, kept, enrolled, _⟩, _⟩ :=
    serve_visits [] ([], 0) handler leads asks 0 []
  rw [(enrolled [1, 2, 3]).mpr ⟨asked, carried⟩] at kept
  exact ⟨rfl, kept⟩

end Host

end Scep
