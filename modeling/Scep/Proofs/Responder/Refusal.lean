import Scep.Proofs.Exchange.Message
import Scep.Proofs.Responder.Route

/-!
Requests that a responder refuses for their message.

An undecodable message is the fault of whoever sent it, and a responder says so
with status 400.  It does as long as the message is ASCII: other text makes the
route stop with an error that it does not answer.
-/

namespace Scep

variable {State : Type} {host : Host State} {service : Service State} {responder : Responder}
variable {arrival : Arrival} {operation : Operation} {value : String}

theorem Operation.ofName?_name (operation : Operation) :
    Operation.ofName? operation.name = some operation :=
  Operation.ofName?_operationName (some operation)

private theorem Route.serve_refused {raised : Raised} (asked : arrival.method = "GET")
    (named : arrival.params.last? "operation" = some operation.name)
    (carried : arrival.params.last? "message" = some value)
    (refused : Message.ofQueryValue value = .error raised) (state : State) :
    Route.serve service arrival state = (state, Route.refuse 0 raised.fault) := by
  have known : Operation.ofName? arrival.asked = some operation := by
    rw [Arrival.asked, named]
    exact Operation.ofName?_name operation
  have unread : arrival.carried .get = .error raised := by
    rw [Arrival.carried, carried]
    exact refused
  have unpulled : (Route.readBody arrival).pulled = 0 := by
    rw [Route.readBody, asked]
    rfl
  rw [Route.serve_unread asked known unread, unpulled]

theorem Host.serve_operations (configured : host.service = some service)
    (leads : responder.OperatesAt arrival.path) (method : Method)
    (asked : arrival.method = method.name) (state : State) :
    host.serve responder arrival state = Route.serve service arrival state := by
  rw [Host.serve, asked, Responder.find_operations leads method, configured]

/-- A `GET` request with a message that cannot be read leaves the handler alone.
It is refused as malformed, with status 400, exactly if the message is ASCII;
otherwise a plain error goes unanswered. -/
theorem Host.serve_undecodable (configured : host.service = some service)
    (leads : responder.OperatesAt arrival.path)
    (asked : arrival.method = "GET")
    (named : arrival.params.last? "operation" = some operation.name)
    (carried : arrival.params.last? "message" = some value) (state : State) (body : Octets) :
    let read := Message.ofRequest "GET" [("message", value)] body
    let served := host.serve responder arrival state
    (Message.IsAscii value → ∀ raised, read = .error raised →
      Message.IsMalformed raised ∧ served.1 = state ∧ served.2.page.status = 400 ∧
        served.2.escaped = none) ∧
      (¬Message.IsAscii value → ∃ raised, read = .error raised ∧
        raised.fault = .plain .value "string argument should contain only ASCII characters" ∧
        ¬Message.IsMalformed raised ∧ served.1 = state ∧ served.2.page.status = 500 ∧
        served.2.escaped = some raised.fault) := by
  intro read served
  have reading : read = Message.ofQueryValue value := Message.ofRequest_get [] value body
  have answered : ∀ raised, read = .error raised →
      served = (state, Route.refuse 0 raised.fault) := by
    intro raised refused
    rw [reading] at refused
    change host.serve responder arrival state = _
    rw [Host.serve_operations configured leads .get asked]
    exact Route.serve_refused asked named carried refused state
  constructor
  · intro ascii raised refused
    rw [answered raised refused]
    rw [reading] at refused
    obtain ⟨flaw, rfl⟩ := Message.invalidMessage_of_ofQueryValue ascii refused
    exact ⟨⟨_, rfl, rfl⟩, rfl, rfl, rfl⟩
  · intro foreign
    have refused := reading.trans (Message.ofQueryValue_foreign foreign)
    rw [answered _ refused]
    exact ⟨_, refused, rfl, Message.not_isMalformed_foreign, rfl, rfl, rfl⟩

/-- A letter outside of ASCII in place of a message. -/
theorem Host.serve_undecodable_foreign :
    let host : Host Unit := ⟨some ⟨[], ([], 0), none⟩⟩
    let responder : Responder := ⟨"/scep".toList, "0.0.0.0", 8080, []⟩
    let arrival : Arrival :=
      { method := "GET", host := "ca", path := "/scep".toList, mark := ""
        query := Text.Utf8.encode "operation=PKIOperation&message=%C3%A9".toList }
    let served := host.serve responder arrival ()
    arrival.params.last? "message" = some "é" ∧ served.2.page.status = 500 ∧
      served.2.escaped =
        some (.plain .value "string argument should contain only ASCII characters") := by
  intro host responder arrival served
  have params : arrival.params = [("operation", "PKIOperation"), ("message", "é")] := by cbv
  have carried : arrival.params.last? "message" = some "é" := by
    rw [params]
    decide
  have named : arrival.params.last? "operation" = some Operation.pkiOperation.name := by
    rw [params]
    decide
  have configured : host.service = some ⟨[], ([], 0), none⟩ := rfl
  have leads : responder.OperatesAt arrival.path := by decide
  have refused := Host.serve_undecodable configured leads rfl named carried () []
  obtain ⟨raised, _, fault, _, _, status, escaped⟩ := refused.2 Message.not_isAscii_accented
  exact ⟨carried, status, escaped.trans (congrArg some fault)⟩

end Scep
