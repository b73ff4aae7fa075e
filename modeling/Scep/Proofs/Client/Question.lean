import Scep.Proofs.Client.Loopback
import Scep.Proofs.Responder.Visit

/-!
Calls that ask one question.

A call for the capability list, for the certificates or for the next of them
makes a single exchange, and the exchange carries no message.  The responder does
what is asked as long as it can read the message that the address may have of its
own, and the call gives the answer.
-/

namespace Scep

variable {Far Held State : Type}

def Call.question? : Call → Option Operation
  | .capabilities => some .getCaCaps
  | .certificate => some .getCaCert
  | .nextCertificate => some .getNextCaCert
  | .list | .supports _ | .enroll _ | .close => none

def Ask.question (operation : Operation) : Ask := ⟨.get, ⟨some operation, []⟩⟩

/-- An exchange that waits for its turn and then brings a response. -/
def Line.Answers (line : Line Far Held) (ask : Ask) (before after : Far) (response : Response)
    (records : List Audit.Record) : Prop :=
  ∃ sent held asking answering,
    line.start ask before = (sent, asking, .ok (.turn, held)) ∧
      line.finish held sent = (after, answering, .ok response) ∧
      records = answering.reverse ++ asking.reverse

theorem Line.Answers.brings {line : Line Far Held} {ask : Ask} {before after : Far}
    {response : Response} {records : List Audit.Record}
    (answers : line.Answers ask before after response records) (fine : response.error = none) :
    line.Brings ask before after response.data := by
  obtain ⟨sent, held, asking, answering, started, finished, _⟩ := answers
  exact ⟨sent, held, asking, answering, response, started, finished, fine, rfl⟩

namespace Session

variable {session : Session Far Held} {line : Line Far Held} {index : Nat} {call : Call}
  {operation : Operation} {deadline : Option Deadline}

private theorem perform_begin_question (session : Session Far Held) {sent : Far} {held : Held}
    {asking : List Audit.Record} (asks : call.question? = some operation)
    (calls : session.Calls index call deadline .queued false)
    (later : ∀ due, session.deadlineOf (.call call deadline) = some due → ¬due.seconds ≤ 0)
    (started : line.start (.question operation) session.far = (sent, asking, .ok (.turn, held))) :
    ∃ timed : Session Far Held,
      timed.Sent (session.perform line (.begin index)) index sent held ∧
        (session.perform line (.begin index)).records = asking.reverse ++ session.records ∧
        timed.tasks = session.tasks ∧ timed.queue = session.queue ∧
        timed.watchers = session.watchers ∧ timed.cache = session.cache := by
  obtain ⟨timers, limited⟩ := limit_eq session index _ later
  have found : session.tasks[index]? = _ := calls
  let timed : Session Far Held := { session with timers }
  have performed : session.perform line (.begin index) =
      timed.exchange line index (.call call deadline) (.question operation) := by
    simp only [perform, found, beginTask, Bool.false_eq_true, if_false, limited]
    cases call with
    | capabilities =>
        cases asks
        rfl
    | certificate =>
        cases asks
        rfl
    | nextCertificate =>
        cases asks
        rfl
    | list => cases asks
    | supports capability => cases asks
    | enroll message => cases asks
    | close => cases asks
  obtain ⟨records, _⟩ := records_exchange_sent timed index (.call call deadline) started
  rw [performed]
  exact ⟨timed, exchange_sent timed _ started found, records, rfl, rfl, rfl, rfl⟩

/-- A question that is answered ends the call, and the client is at rest as it
was before. -/
theorem join_question (rest : session.AtRest) (asks : call.question? = some operation)
    (later : ∀ due, session.deadlineOf (.call call deadline) = some due → ¬due.seconds ≤ 0)
    {after : Far} {response : Response} {records : List Audit.Record}
    (answers : line.Answers (.question operation) session.far after response records)
    (fine : response.error = none) :
    let last := (session.add (.call call deadline)).join line session.tasks.length
    last.ending? session.tasks.length = some (.value (given response call)) ∧ last.far = after ∧
      last.cache = (if call = .capabilities then session.cache.replace response.data
        else session.cache) ∧
      last.records =
        (if call = .capabilities then [listUpdated response.data false] else []) ++
          (records ++ session.records) ∧
      last.AtRest := by
  obtain ⟨sent, held, asking, answering, started, finished, rfl⟩ := answers
  obtain ⟨fuel, joined, queue, queued⟩ := join_call line rest call deadline
  let added := session.add (.call call deadline)
  obtain ⟨timed, sending, asked, sameTasks, sameQueue, sameWatchers, sameCache⟩ :=
    perform_begin_question { added with queue := [] } asks queued later started
  let next := ({ added with queue := [] } : Session Far Held).perform line
    (.begin session.tasks.length)
  have calls : next.Calls session.tasks.length call deadline (.sending held) true :=
    sending.task { work := .call call deadline } (by rw [sameTasks]; exact queued)
  have wakes : next.queue = [.wake session.tasks.length] := by
    rw [sending.queue, sameQueue]
    rfl
  have cache : next.cache = session.cache := sending.cache.trans sameCache
  have watchers : next.watchers = session.watchers := sending.watchers.trans sameWatchers
  rw [← sending.far] at finished
  have stepped : added.join line session.tasks.length =
      await line session.tasks.length (fuel + 7) next :=
    joined.trans (await_step queue (by intro same; cases same) rfl
      (calls.not_isOver (by intro ending same; cases same)))
  obtain ⟨ended, far, kept, told, quiet, unwatched⟩ :=
    await_sending (fuel + 4) wakes calls finished fine
  intro last
  have reached : last = _ := stepped
  rw [reached]
  refine ⟨ended, far, ?_, ?_, quiet, ?_, ?_⟩
  · rw [kept, cache]
  · rw [told, List.append_assoc]
    exact congrArg (fun records => _ ++ (answering.reverse ++ records)) asked
  · rw [unwatched, watchers]
    exact rest.watchers
  · rw [kept, cache]
    split
    · rw [Cache.replace_slot]
      exact rest.slot
    · exact rest.slot

end Session

/-! ### Questions to a responder -/

/-- The requests for an address come to the route of a responder, and a message
that the address has of its own can be read. -/
structure Responder.Hears (responder : Responder) (url : Url) : Prop where
  reached : responder.IsReachedBy url
  readable : ∃ octets, Message.ofQueryValue
    (((Query.parse (url.query.getD [])).last? "message").getD "") = .ok octets

theorem Responder.IsReachedBy.hears {responder : Responder} {url : Url}
    (reached : responder.IsReachedBy url)
    (unclaimed : "message" ∉ (Query.parse (url.query.getD [])).names) : responder.Hears url := by
  refine ⟨reached, [], ?_⟩
  rw [Query.last?_of_not_mem_names unclaimed]
  exact Message.ofQueryValue_empty

def Url.common : Url := { scheme := "http".toList, host := "ca".toList, path := "/scep".toList }

theorem Responder.operatesAt_common (host : String) (port : Int) :
    OperatesAt ⟨"/scep".toList, host, port, []⟩ Url.common.shownPath := by
  rw [show Url.common.shownPath = "/scep".toList by decide]
  exact operatesAt_of_path _ host port

theorem Responder.hears_common (host : String) (port : Int) :
    Hears ⟨"/scep".toList, host, port, []⟩ .common := by
  have bare : Url.common.withQuery [] = .ok .common := by cbv
  have named : Outgoing.IsNamed .common := ⟨_, by cbv⟩
  have operates := operatesAt_common host port
  have reached : IsReachedBy ⟨"/scep".toList, host, port, []⟩ .common :=
    ⟨_, _, ⟨bare, bare, named, named⟩, operates, operates⟩
  exact reached.hears (by decide)

private theorem Outgoing.exists_question {url once twice : Url} (rebuilt : Rebuilt url once twice)
    (operation : Operation)
    (short : (queryOf .get url ⟨some operation, []⟩).render.length ≤ Url.lengthLimit) :
    ∃ outgoing query, ofRequest Method.get.name url ⟨some operation, []⟩ = .ok outgoing ∧
      outgoing.url = { once with query } := by
  obtain ⟨outgoing, made⟩ := exists_make rebuilt.firstNamed
    (some (queryOf .post url ⟨some operation, []⟩).render) .get [] []
  refine ⟨outgoing, _, ?_, (madeOf_of_make made).url⟩
  unfold ofRequest
  rw [setParam_operation rebuilt short, Method.ofName?_name]
  change get { once with query := some _ } ⟨some operation, []⟩ = _
  exact get_of_make rfl made

namespace Loopback

variable {client : Client} {outgoing : Outgoing} {cut : Outgoing → Octets → List Octets}
  {responder : Responder} {service : Service State} {state : State} {operation : Operation}
  {octets : Octets} {response : Response}

private theorem serve_question {url : Url}
    (made : Outgoing.ofRequest Method.get.name url ⟨some operation, []⟩ = .ok outgoing)
    (readable : Message.ofQueryValue
      (((Query.parse (url.query.getD [])).last? "message").getD "") = .ok octets)
    (service : Service State) (state : State) :
    Route.serve service (arrival outgoing) state =
      ((service.perform operation octets state).1,
        Route.conclude (arrival outgoing) operation (Route.readBody (arrival outgoing)).pulled
          (service.perform operation octets state).2) := by
  obtain ⟨method, place, known, written, madeOf⟩ := Outgoing.madeOf_of_ofRequest made
  rw [Method.ofName?_name] at known
  cases known
  have read := params_arrival written madeOf.url
  have carried : (arrival outgoing).carried .get = .ok octets := by
    rw [Arrival.carried, read, Outgoing.queryOf_get_of_empty rfl, Outgoing.queryOf,
      Query.last?_set_of_ne _ _ (by decide)]
    exact readable
  exact Route.serve_performed (congrArg Method.name madeOf.method) (asked_arrival read rfl) carried

theorem answers_question (hears : responder.Hears client.url)
    (whole : ∀ outgoing body, (cut outgoing body).flatten = body)
    (performed : ∀ octets, service.perform operation octets state = (state, .ok response))
    (labelled : response.operation = some operation) (fine : response.error = none)
    (short : response.data.length ≤ payloadLimit)
    (queryFits : (Outgoing.queryOf .get client.url ⟨some operation, []⟩).render.length ≤
      Url.lengthLimit) (sent : List Outgoing) :
    ∃ later records, (client.line (transportBy cut)).Answers (.question operation)
        ⟨⟨⟨some service⟩, responder, state⟩, sent⟩ ⟨⟨⟨some service⟩, responder, state⟩, later⟩
        { operation := some operation
          certificates :=
            if some operation = some .getCaCert ∧ 1 < response.certificates then chainHint else 0
          data := response.data } records ∧
      records.filter (·.event.isUpdate) = [] := by
  obtain ⟨⟨once, twice, rebuilt, leads, _⟩, octets, readable⟩ := hears
  obtain ⟨outgoing, query, made, placed⟩ := Outgoing.exists_question rebuilt operation queryFits
  have shown : responder.OperatesAt outgoing.url.shownPath := by
    rw [placed]
    exact leads
  let loopback : Loopback State := ⟨⟨some service⟩, responder, state⟩
  have served : loopback.host.serve loopback.responder (arrival outgoing) loopback.state =
      (state, Route.conclude (arrival outgoing) operation
        (Route.readBody (arrival outgoing)).pulled (.ok response)) := by
    have found : responder.find (arrival outgoing).method (arrival outgoing).path =
        .endpoint .operations := Responder.find_operations shown outgoing.method
    simp only [loopback, Host.serve, found, serve_question made readable, performed]
  obtain ⟨event, unchanged, sends⟩ := send_made loopback (.question operation) made
    shown cut sent
  obtain ⟨answering, quiet, receives⟩ :=
    receive_served ⟨some operation, []⟩ served whole rfl labelled fine short
      (outgoing.authorized :: sent) outgoing.authorized.url
  refine ⟨_, _, ⟨_, _, _, answering, sends, receives, rfl⟩, ?_⟩
  rw [List.filter_append, List.filter_reverse, quiet]
  simp only [List.reverse_nil, List.nil_append, List.reverse_singleton, List.filter_cons,
    unchanged, Bool.false_eq_true, if_false, List.filter_nil]

end Loopback

end Scep
