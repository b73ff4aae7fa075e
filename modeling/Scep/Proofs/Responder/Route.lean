import Scep.Proofs.Exchange.Delivery
import Scep.Proofs.Responder.Arrival

/-!
What a responder does with a request on its route.

What happens depends on the operation that is asked for and on the message; the
pieces in which a body comes show only in how much of it is read.  On the path of
the route either method leads to the operation that a client asked for, performed
on the message that the client gave.
-/

namespace Scep

variable {State : Type}

/-! ### Reading a request -/

/-- The message of a request: on `POST` the whole body, and on `GET` what the
last value in the query stands for, empty if there is none. -/
def Arrival.carried (arrival : Arrival) : Method → Except Raised Octets
  | .get => Message.ofQueryValue ((arrival.params.last? "message").getD "")
  | .post => Message.ofBody arrival.pieces.flatten

/-- The operation that a request names, empty if it names none. -/
def Arrival.asked (arrival : Arrival) : String := (arrival.params.last? "operation").getD ""

namespace Route

variable {arrival : Arrival} {method : Method} {service : Service State} {state : State}
  {operation : Operation}

theorem message_carried (asks : arrival.method = method.name) :
    message arrival (readBody arrival) = arrival.carried method := by
  cases method with
  | get =>
      have unread : readBody arrival = ⟨[], 0, 0, none⟩ := by
        rw [readBody, asks]
        rfl
      rw [message, unread, asks]
      rfl
  | post =>
      have read : readBody arrival = readPieces payloadLimit none [] [] 0 0 arrival.pieces := by
        rw [readBody, asks]
        rfl
      rw [message, read, asks, Arrival.carried, Message.ofBody]
      by_cases beyond : payloadLimit < arrival.pieces.flatten.length
      · obtain ⟨before, last, after, _, _, _, reading⟩ :=
          readPieces_beyond none [] 0 arrival.pieces (Nat.zero_le payloadLimit) (by omega)
        rw [reading, if_pos beyond]
        rfl
      · have whole : (arrival.pieces.reverse ++ []).reverse.flatten = arrival.pieces.flatten := by
          rw [List.append_nil, List.reverse_reverse]
        rw [readPieces_within _ (by omega), if_neg beyond]
        change Message.ofBody (arrival.pieces.reverse ++ []).reverse.flatten = _
        rw [whole]
        exact if_neg beyond

theorem serve_unknown (unknown : Operation.ofName? arrival.asked = none) :
    serve service arrival state =
      (state, refuse 0 (.failure (.unknownOperation arrival.asked))) := by
  rw [Arrival.asked] at unknown ⊢
  simp only [serve, unknown]

theorem serve_unread (asks : arrival.method = method.name)
    (known : Operation.ofName? arrival.asked = some operation) {raised : Raised}
    (unread : arrival.carried method = .error raised) :
    serve service arrival state = (state, refuse (readBody arrival).pulled raised.fault) := by
  rw [Arrival.asked] at known
  simp only [serve, known, message_carried asks, unread]

theorem serve_performed (asks : arrival.method = method.name)
    (known : Operation.ofName? arrival.asked = some operation) {octets : Octets}
    (carried : arrival.carried method = .ok octets) :
    serve service arrival state =
      ((service.perform operation octets state).1,
        conclude arrival operation (readBody arrival).pulled
          (service.perform operation octets state).2) := by
  rw [Arrival.asked] at known
  simp only [serve, known, message_carried asks, carried]

end Route

/-! ### Requests of a client -/

namespace Responder

variable {responder : Responder} {path : List Char}

theorem leadsTo_self (route : List Char) : leadsTo route route = true := by
  rw [leadsTo, beq_self_eq_true, Bool.true_or]

def IsFree (responder : Responder) (path : List Char) : Prop :=
  ∀ page ∈ responder.pages, leadsTo page.1 path = false

/-- Operations are performed at a path. -/
structure OperatesAt (responder : Responder) (path : List Char) : Prop where
  leads : leadsTo responder.path path = true
  free : responder.IsFree path

instance : Decidable (responder.IsFree path) := List.decidableBAll _ _

instance : Decidable (responder.OperatesAt path) :=
  decidable_of_iff (leadsTo responder.path path = true ∧ responder.IsFree path)
    ⟨fun both => ⟨both.1, both.2⟩, fun operates => ⟨operates.leads, operates.free⟩⟩

theorem operatesAt_of_path (path : List Char) (host : String) (port : Int) :
    OperatesAt ⟨path, host, port, []⟩ path :=
  ⟨leadsTo_self path, fun _ none => absurd none List.not_mem_nil⟩

theorem endpoints_of_isFree (free : responder.IsFree path) :
    responder.endpoints path =
      [(Endpoint.operations, responder.path), (.health, "/health".toList)].filterMap fun route =>
        if leadsTo route.2 path then some route.1 else none := by
  have passed : (responder.pages.map fun page => (Endpoint.own page.2, page.1)).filterMap
      (fun route => if leadsTo route.2 path then some route.1 else none) = [] := by
    rw [List.filterMap_eq_nil_iff]
    intro route member
    obtain ⟨page, own, rfl⟩ := List.mem_map.mp member
    exact if_neg (Bool.eq_false_iff.mp (free page own))
  rw [endpoints, routes, List.filterMap_append, passed, List.nil_append]

/-- Where operations are performed nothing else is tried before. -/
theorem exists_endpoints_eq (operates : responder.OperatesAt path) :
    ∃ others, responder.endpoints path = .operations :: others ∧
      ∀ endpoint ∈ others, endpoint = .health := by
  rw [endpoints_of_isFree operates.free, List.filterMap_cons, if_pos operates.leads]
  refine ⟨_, rfl, fun endpoint member => ?_⟩
  obtain ⟨route, known, shown⟩ := List.mem_filterMap.mp member
  rw [List.mem_singleton.mp known] at shown
  split at shown
  · exact (Option.some.inj shown).symm
  · cases shown

theorem find_operations (operates : responder.OperatesAt path) (method : Method) :
    responder.find method.name path = .endpoint .operations := by
  obtain ⟨others, endpoints, _⟩ := exists_endpoints_eq operates
  have allowed : Endpoint.operations.methods.contains method.name = true := by
    cases method <;> decide
  simp only [find, endpoints, List.find?_cons, allowed]

end Responder

namespace Loopback

variable {url : Url} {request : Request} {outgoing : Outgoing} {method : Method}
  {operation : Operation}

theorem asked_arrival (read : (arrival outgoing).params = Outgoing.queryOf method url request)
    (asked : request.operation = some operation) :
    Operation.ofName? (arrival outgoing).asked = some operation := by
  rw [Arrival.asked, read, Outgoing.last?_operation_queryOf, ← asked]
  exact Operation.ofName?_operationName request.operation

private theorem carried_arrival (read : (arrival outgoing).params = Outgoing.queryOf method url
    request) (carried : outgoing.body = Outgoing.bodyOf method request)
    (unclaimed : "message" ∉ (Query.parse (url.query.getD [])).names)
    (within : request.message.length ≤ payloadLimit) :
    (arrival outgoing).carried method = .ok request.message := by
  have message := message_arrival read fun _ _ => unclaimed
  rw [if_neg fun both => Nat.not_lt.mpr within both.2, Message.ofRequest, Method.ofName?_name]
    at message
  cases method with
  | get => exact message
  | post =>
      change Message.ofBody [outgoing.body].flatten = _
      rw [List.flatten_singleton, carried]
      exact message

/-- The responder performs the operation that a request was encoded from. -/
theorem serve_arrival (made : Outgoing.ofRequest method.name url request = .ok outgoing)
    (asked : request.operation = some operation)
    (unclaimed : "message" ∉ (Query.parse (url.query.getD [])).names)
    (within : request.message.length ≤ payloadLimit) (service : Service State) (state : State) :
    Route.serve service (arrival outgoing) state =
      ((service.perform operation request.message state).1,
        Route.conclude (arrival outgoing) operation (Route.readBody (arrival outgoing)).pulled
          (service.perform operation request.message state).2) := by
  obtain ⟨other, place, known, written, madeOf⟩ := Outgoing.madeOf_of_ofRequest made
  rw [Method.ofName?_name] at known
  cases known
  have read := params_arrival written madeOf.url
  exact Route.serve_performed (congrArg Method.name madeOf.method) (asked_arrival read asked)
    (carried_arrival read madeOf.body unclaimed within)

end Loopback

end Scep
