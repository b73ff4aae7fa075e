import Scep.Client.Basic
import Scep.Proofs.Client.Enrollment
import Scep.Proofs.Exchange.Answer
import Scep.Proofs.Responder.Route

/-!
Exchanges of a client and a responder that meet without a network.

An address reaches a responder if the requests that are made for it come to the
route on which operations are performed.  Then what the service does is all that
an exchange does to the other end, and the payload is all that comes back.
-/

namespace Scep

variable {State : Type}

/-- The requests for an address come to the route of a responder: the address
can be rebuilt for them, and each time it has the path of the route. -/
def Responder.IsReachedBy (responder : Responder) (url : Url) : Prop :=
  ∃ once twice, Outgoing.Rebuilt url once twice ∧
    responder.OperatesAt once.shownPath ∧ responder.OperatesAt twice.shownPath

def Audit.Event.isUpdate (event : Audit.Event) : Bool := event.name == "capabilities_updated"

namespace Loopback

variable {client : Client} {outgoing : Outgoing} {request : Request}

theorem exists_request {responder : Responder} {url : Url} (reached : responder.IsReachedBy url)
    (method : Method) (unclaimed : "message" ∉ (Query.parse (url.query.getD [])).names)
    (short : (Outgoing.queryOf method url request).render.length ≤ Url.lengthLimit) :
    ∃ outgoing, Outgoing.ofRequest method.name url request = .ok outgoing ∧
      responder.OperatesAt outgoing.url.shownPath := by
  obtain ⟨once, twice, rebuilt, onceLeads, twiceLeads⟩ := reached
  obtain ⟨outgoing, query, made, place⟩ :=
    Outgoing.exists_ofRequest rebuilt method unclaimed short
  refine ⟨outgoing, made, ?_⟩
  rcases place with first | second
  · rw [first]
    exact onceLeads
  · rw [second]
    exact twiceLeads

private theorem arrival_authorized (outgoing : Outgoing) :
    arrival outgoing.authorized = arrival outgoing := by
  unfold Outgoing.authorized
  dsimp only
  split
  · rfl
  · rfl

theorem url_authorized (outgoing : Outgoing) : outgoing.authorized.url = outgoing.url := by
  unfold Outgoing.authorized
  dsimp only
  split
  · rfl
  · rfl

private theorem fault?_delivered {response : Response} (fine : response.error = none) (asked : Url)
    (pieces : List Octets) :
    Redirect.fault? asked ((Answer.ofResponse response).delivered none pieces) = none := by
  have page : (Answer.ofResponse response).status = 200 := by
    simp only [Answer.ofResponse, fine]
  have stays : Redirect.location? ((Answer.ofResponse response).delivered none pieces) = none := by
    rw [Redirect.location?, Answer.delivered, page]
    rfl
  rw [Redirect.fault?, stays]

/-! ### Exchanges -/

variable {cut : Outgoing → Octets → List Octets} {loopback : Loopback State} {ask : Ask}
  {operation : Operation} {service : Service State} {state : State} {response : Response}

/-- A request is made for what is asked, comes to the route of a responder that
has a service, and is not too long to be read there. -/
structure Arrives (loopback : Loopback State) (client : Client) (ask : Ask)
    (operation : Operation) (service : Service State) (outgoing : Outgoing) : Prop where
  made : Outgoing.ofRequest ask.method.name client.url ask.request = .ok outgoing
  leads : loopback.responder.OperatesAt outgoing.url.shownPath
  serves : loopback.host.service = some service
  asked : ask.request.operation = some operation
  unclaimed : "message" ∉ (Query.parse (client.url.query.getD [])).names
  within : ask.request.message.length ≤ payloadLimit

theorem send_made (loopback : Loopback State) (ask : Ask)
    (made : Outgoing.ofRequest ask.method.name client.url ask.request = .ok outgoing)
    (leads : loopback.responder.OperatesAt outgoing.url.shownPath)
    (cut : Outgoing → Octets → List Octets) (sent : List Outgoing) :
    ∃ event : Audit.Event, event.isUpdate = false ∧
      client.send (transportBy cut) ask ⟨loopback, sent⟩ =
        (⟨loopback, outgoing.authorized :: sent⟩, [{ event }],
          .ok (.turn, ⟨ask.request, outgoing.authorized.url, outgoing.authorized⟩)) := by
  have waits : loopback.responder.find outgoing.authorized.method.name
      outgoing.authorized.url.shownPath = .endpoint .operations := by
    rw [url_authorized]
    exact Responder.find_operations leads _
  simp only [Client.send, made, transportBy, waits]
  exact ⟨_, rfl, rfl⟩

private theorem send_of_arrives (arrives : Arrives loopback client ask operation service outgoing)
    (cut : Outgoing → Octets → List Octets) (sent : List Outgoing) :
    ∃ records, client.send (transportBy cut) ask ⟨loopback, sent⟩ =
      (⟨loopback, outgoing.authorized :: sent⟩, records,
        .ok (.turn, ⟨ask.request, outgoing.authorized.url, outgoing.authorized⟩)) := by
  obtain ⟨event, _, sends⟩ := send_made loopback ask arrives.made arrives.leads cut sent
  exact ⟨[{ event }], sends⟩

private theorem serve_of_arrives (arrives : Arrives loopback client ask operation service outgoing)
    (performed : service.perform operation ask.request.message loopback.state =
      (state, .ok response)) :
    loopback.host.serve loopback.responder (arrival outgoing) loopback.state =
      (state, Route.conclude (arrival outgoing) operation
        (Route.readBody (arrival outgoing)).pulled (.ok response)) := by
  have found : loopback.responder.find (arrival outgoing).method (arrival outgoing).path =
      .endpoint .operations := Responder.find_operations arrives.leads outgoing.method
  have served := serve_arrival arrives.made arrives.asked arrives.unclaimed arrives.within service
    loopback.state
  simp only [Host.serve, found, arrives.serves, served, performed]

theorem receive_served (request : Request) {pulled : Nat}
    (served : loopback.host.serve loopback.responder (arrival outgoing) loopback.state =
      (state, Route.conclude (arrival outgoing) operation pulled (.ok response)))
    (whole : ∀ outgoing body, (cut outgoing body).flatten = body)
    (asked : request.operation = some operation) (labelled : response.operation = some operation)
    (fine : response.error = none) (short : response.data.length ≤ payloadLimit)
    (sent : List Outgoing) (url : Url) :
    ∃ records, records.filter (·.event.isUpdate) = [] ∧
      Client.receive (transportBy cut) ⟨request, url, outgoing.authorized⟩ ⟨loopback, sent⟩ =
        (⟨{ loopback with state }, sent⟩, records, .ok {
          operation := some operation
          certificates :=
            if some operation = some .getCaCert ∧ 1 < response.certificates then chainHint else 0
          data := response.data }) := by
  let pieces := cut outgoing.authorized (Answer.ofResponse response).body
  have body : (Route.conclude (arrival outgoing) operation pulled (.ok response)).page.body =
      (Answer.ofResponse response).body := rfl
  have delivered : delivery (Route.conclude (arrival outgoing) operation pulled
      (.ok response)).page pieces = (Answer.ofResponse response).delivered none pieces := rfl
  have received := Answer.receive_data none fine
    (whole outgoing.authorized (Answer.ofResponse response).body)
  rw [if_neg (Nat.not_lt.mpr short), labelled] at received
  have stays := fault?_delivered fine url pieces
  simp only [Client.receive, transportBy, arrival_authorized, served, body, delivered, stays,
    asked, received, pieces]
  exact ⟨_, rfl, rfl⟩

theorem receive_of_arrives (arrives : Arrives loopback client ask operation service outgoing)
    (whole : ∀ outgoing body, (cut outgoing body).flatten = body)
    (performed : service.perform operation ask.request.message loopback.state =
      (state, .ok response))
    (labelled : response.operation = some operation) (fine : response.error = none)
    (short : response.data.length ≤ payloadLimit) (sent : List Outgoing) (url : Url) :
    ∃ records received, Client.receive (transportBy cut) ⟨ask.request, url, outgoing.authorized⟩
        ⟨loopback, sent⟩ =
      (⟨{ loopback with state }, sent⟩, records, .ok received) ∧
        received.error = none ∧ received.data = response.data := by
  obtain ⟨records, _, received⟩ :=
    receive_served ask.request (serve_of_arrives arrives performed) whole arrives.asked labelled fine
      short sent url
  exact ⟨records, _, received, rfl, rfl⟩

theorem brings_of_arrives (response : Response)
    (arrives : Arrives loopback client ask operation service outgoing)
    (whole : ∀ outgoing body, (cut outgoing body).flatten = body)
    (performed : service.perform operation ask.request.message loopback.state =
      (state, .ok response))
    (labelled : response.operation = some operation) (fine : response.error = none)
    (short : response.data.length ≤ payloadLimit) (sent : List Outgoing) :
    (client.line (transportBy cut)).Brings ask ⟨loopback, sent⟩
      ⟨{ loopback with state }, outgoing.authorized :: sent⟩ response.data := by
  obtain ⟨asking, started⟩ := send_of_arrives arrives cut sent
  obtain ⟨answering, received, finished, errorless, data⟩ :=
    receive_of_arrives arrives whole performed labelled fine short
      (outgoing.authorized :: sent) outgoing.authorized.url
  exact ⟨_, _, asking, answering, received, started, finished, errorless, data⟩

end Loopback

end Scep
