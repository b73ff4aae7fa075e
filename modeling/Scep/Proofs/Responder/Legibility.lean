import Scep.Proofs.Responder.Account
import Scep.Proofs.Text.Quoted
import Scep.Proofs.Text.Search

/-!
What can be seen of a request in records and in refusals.

Texts of whoever makes a request come back in quotes, if they do, and all else that
is told of a request is known beforehand.  So each record is one line, and nothing
that a request holds can end it or look like another one.
-/

namespace Scep

open Text (IsLegible)

variable {State : Type}

/-! ### Lines -/

private theorem Settings.Level.isLegible_name (level : Level) : IsLegible level.name := by
  cases level <;> decide

namespace Audit

private theorem Event.isLegible_name (event : Event) : IsLegible event.name := by
  unfold name
  split <;> decide

private theorem Record.isLegible_shown (detail : Detail) : IsLegible (shown detail) := by
  cases detail with
  | text value => exact .quoted value
  | whole value =>
      refine .append ?_ ?_
      · split <;> exact .ofList (by decide)
      · exact .ofList (.toDigits value.natAbs)
  | flag value => cases value <;> decide
  | missing => decide

/-- A record is one line unless its message or its mark is not. -/
theorem Record.isLegible_line {record : Record} (message : IsLegible record.event.message)
    (mark : IsLegible record.correlation) : IsLegible record.line := by
  have fields : IsLegible (", ".intercalate (record.allFields.map fun field =>
      Text.quoted field.1 ++ ": " ++ shown field.2)) := by
    rw [IsLegible, String.toList_intercalate]
    refine .intercalate (by decide) fun piece member => ?_
    obtain ⟨text, within, rfl⟩ := List.mem_map.mp member
    obtain ⟨field, _, rfl⟩ := List.mem_map.mp within
    exact ((IsLegible.quoted field.1).append (.ofList (by decide))).append (isLegible_shown field.2)
  have level : IsLegible ("[" ++ record.event.level.name ++ "] [") :=
    .append (.append (.ofList (by decide)) record.event.level.isLegible_name) (.ofList (by decide))
  have name : IsLegible ("[" ++ record.event.level.name ++ "] [" ++ record.correlation ++ "] <" ++
      record.event.name ++ "> ") :=
    .append (.append (.append (level.append mark) (.ofList (by decide)))
      record.event.isLegible_name) (.ofList (by decide))
  exact .append (.append (.append (name.append message) (.ofList (by decide))) fields)
    (.ofList (by decide))

private theorem Event.isLegible_error {fault : Fault} {context : String} (place : IsLegible context)
    (told : IsLegible fault.message) : IsLegible (error fault context).message :=
  .append (.append (.append (.ofList (by decide)) place) (.ofList (by decide))) told

private theorem Event.error_message_injective {first second : Fault} {context : String}
    (same : (error first context).message = (error second context).message) :
    first.message = second.message :=
  (String.append_right_inj ("Error during " ++ context ++ ": ")).mp same

private theorem Event.isLegible_requestServed {operation method : String}
    (named : IsLegible operation) (asks : IsLegible method) (status size : Int) :
    IsLegible (requestServed operation method status size).message := by
  have both : IsLegible (method ++ " " ++ operation) :=
    (asks.append (.ofList (by decide))).append named
  change IsLegible (if status < 400 then method ++ " " ++ operation ++ " served"
    else method ++ " " ++ operation ++ " failed with status " ++ toString status)
  split
  · exact both.append (.ofList (by decide))
  · exact (both.append (.ofList (by decide))).append (.whole status)

end Audit

/-! ### Failures -/

private theorem Operation.isLegible_name (operation : Operation) : IsLegible operation.name := by
  cases operation <;> decide

private theorem Method.isLegible_name (method : Method) : IsLegible method.name := by
  cases method <;> decide

private theorem Base64.Flaw.isLegible_message (flaw : Flaw) : IsLegible flaw.message := by
  cases flaw with
  | strayCharacter count =>
      exact .append (.append (.ofList (by decide)) (.natural count)) (.ofList (by decide))
  | leadingPadding => decide
  | excessData => decide
  | foreignCharacter => decide
  | interruptedPadding => decide
  | incompleteGroup => decide

namespace Failure

private theorem isLegible_unknownOperation (asked : String) :
    IsLegible (unknownOperation asked).message :=
  .append (.ofList (by decide)) (.quoted asked)

private theorem isLegible_noHandler (operation : Operation) :
    IsLegible (noHandler operation.name).message :=
  .append (.ofList (by decide)) operation.isLegible_name

private theorem unknownOperation_message_injective {first second : String}
    (same : (unknownOperation first).message = (unknownOperation second).message) :
    first = second :=
  Text.quoted_injective ((String.append_right_inj "Unknown SCEP operation: ").mp same)

end Failure

private theorem Arrival.isLegible_carried {arrival : Arrival} {method : Method} {raised : Raised}
    {failure : Failure} (unread : arrival.carried method = .error raised)
    (told : raised.fault = .failure failure) : IsLegible failure.message := by
  cases method with
  | post =>
      have refused : Message.ofBody arrival.pieces.flatten = .error raised := unread
      unfold Message.ofBody at refused
      split at refused
      · cases refused
        cases told
        decide
      · cases refused
  | get =>
      have refused : Message.ofQueryValue _ = .error raised := unread
      by_cases ascii : Message.IsAscii ((arrival.params.last? "message").getD "")
      · obtain ⟨flaw, rfl⟩ := Message.invalidMessage_of_ofQueryValue ascii refused
        cases told
        exact .append (.ofList (by decide)) flaw.isLegible_message
      · -- Other text is stopped by a fault that nobody tells.
        rw [Message.ofQueryValue_foreign ascii] at refused
        cases refused
        cases told

/-! ### Handlers that do what they are asked to do -/

def Handler.attend (handler : Handler State) : Visit → State → State × Except Fault Octets
  | .enroll message => handler.enroll message
  | .nextCertificate => handler.nextCertificate

private theorem Service.handle_error_eq {service : Service State} {operation : Operation}
    {task : Handler State → State → State × Except Fault Octets} {state : State} {fault : Fault}
    (done : ∀ handler ∈ service.handler, ∃ data, (task handler state).2 = .ok data)
    (failed : (service.handle operation task state).2 = .error fault) :
    fault = .failure (.noHandler operation.name) := by
  unfold handle at failed
  cases given : service.handler with
  | none =>
      rw [given] at failed
      cases failed
      rfl
  | some handler =>
      obtain ⟨data, outcome⟩ := done handler given
      simp only [given, outcome] at failed
      cases failed

private theorem Service.perform_error_eq {service : Service State} {operation : Operation}
    {message : Octets} {state : State} {fault : Fault}
    (done : ∀ handler ∈ service.handler, ∀ visit, operation.visit? message = some visit →
      ∃ data, (handler.attend visit state).2 = .ok data)
    (failed : (service.perform operation message state).2 = .error fault) :
    fault = .failure (.noHandler operation.name) := by
  cases operation with
  | getCaCaps => cases failed
  | getCaCert => cases failed
  | pkiOperation => exact handle_error_eq (fun handler given => done handler given _ rfl) failed
  | getNextCaCert => exact handle_error_eq (fun handler given => done handler given _ rfl) failed

/-! ### Answers and records -/

/-- A record with a printable message, kept under the mark of a request if under
any. -/
structure Audit.Record.IsPlain (record : Record) (mark : String) : Prop where
  message : IsLegible record.event.message
  correlation : record.correlation = uncorrelated ∨ record.correlation = mark

private theorem Audit.Record.IsPlain.line {record : Record} {mark : String}
    (plain : record.IsPlain mark) (own : IsLegible mark) : IsLegible record.line := by
  refine isLegible_line plain.message ?_
  rcases plain.correlation with none | marked
  · rw [none]
    decide
  · rwa [marked]

private theorem Audit.Record.IsPlain.during {event : Event} (mark : String)
    (message : IsLegible event.message) : (Record.during mark event).IsPlain mark := by
  refine ⟨message, ?_⟩
  unfold Record.during
  split
  · exact Or.inl rfl
  · exact Or.inr rfl

structure Served.IsPlain (served : Served) (mark : String) : Prop where
  records : ∀ record ∈ served.records, record.IsPlain mark
  refusal : 400 ≤ served.page.status → served.page.status < 500 →
    ∃ text : String, served.page.body = Text.Utf8.encode text.toList ∧ IsLegible text

namespace Route

variable {arrival : Arrival} {method : Method} {service : Service State} {state : State}
variable {operation : Operation} {pulled : Nat} {mark : String} {failure : Failure}

private theorem body_refuse (failure : Failure) :
    (refuse pulled (.failure failure)).page.body = Text.Utf8.encode failure.message.toList := rfl

private theorem isPlain_refuse {fault : Fault}
    (told : ∀ failure, fault = .failure failure → IsLegible failure.message) :
    (refuse pulled fault).IsPlain mark := by
  cases fault with
  | failure failure =>
      have words := told failure rfl
      constructor
      · intro record kept
        obtain rfl := List.mem_singleton.mp kept
        exact ⟨Audit.Event.isLegible_error (.ofList (by decide)) words, Or.inl rfl⟩
      · exact fun _ _ => ⟨failure.message, rfl, words⟩
  | _ =>
      constructor
      · exact fun record kept => absurd kept List.not_mem_nil
      · exact fun _ low => absurd low (by decide : ¬500 < 500)

private theorem isPlain_conclude_ok (asks : IsLegible arrival.method) {response : Response}
    (fine : response.error = none) :
    (conclude arrival operation pulled (.ok response)).IsPlain arrival.mark := by
  have status : (conclude arrival operation pulled (.ok response)).page.status = 200 := by
    simp only [conclude, Page.ofAnswer, Answer.ofResponse, fine]
  constructor
  · intro record kept
    obtain rfl := List.mem_singleton.mp kept
    exact .during _ (Audit.Event.isLegible_requestServed operation.isLegible_name asks _ _)
  · intro high
    rw [status] at high
    exact absurd high (by decide)

private theorem isPlain_conclude_failure (asks : IsLegible arrival.method)
    (told : IsLegible failure.message) :
    (conclude arrival operation pulled (.error (.failure failure))).IsPlain arrival.mark := by
  have named := operation.isLegible_name
  constructor
  · intro record kept
    rcases List.mem_pair.mp kept with rfl | rfl
    · exact .during _ (Audit.Event.isLegible_error named told)
    · exact .during _ (Audit.Event.isLegible_requestServed named asks _ _)
  · exact fun _ low => absurd low (by decide : ¬500 < 500)

private theorem isPlain_serve (asks : arrival.method = method.name)
    (done : ∀ handler ∈ service.handler, ∀ visit, arrival.visit? method = some visit →
      ∃ data, (handler.attend visit state).2 = .ok data) :
    (serve service arrival state).2.IsPlain arrival.mark := by
  have plain : IsLegible arrival.method := asks ▸ method.isLegible_name
  cases known : Operation.ofName? arrival.asked with
  | none =>
      simp only [serve_unknown known]
      refine isPlain_refuse fun failure same => ?_
      cases same
      exact Failure.isLegible_unknownOperation arrival.asked
  | some operation =>
      cases carried : arrival.carried method with
      | error raised =>
          simp only [serve_unread asks known carried]
          exact isPlain_refuse fun failure => Arrival.isLegible_carried carried
      | ok message =>
          simp only [serve_performed asks known carried]
          cases performed : (service.perform operation message state).2 with
          | ok response => exact isPlain_conclude_ok plain (Service.perform_ok performed).2
          | error fault =>
              have named := Operation.ofName?_eq_some_iff.mp known
              obtain rfl := Service.perform_error_eq (fun handler given visit visits =>
                done handler given visit
                  (Arrival.visit?_eq_some_iff.mpr ⟨operation, message, named, carried, visits⟩))
                performed
              exact isPlain_conclude_failure plain (Failure.isLegible_noHandler operation)

end Route

namespace Responder

private theorem find_otherMethods {responder : Responder} {path : List Char} {method : String}
    (operates : responder.OperatesAt path) (foreign : ∀ known : Method, method ≠ known.name) :
    responder.find method path = .otherMethods Endpoint.operations.methods := by
  obtain ⟨others, endpoints, health⟩ := exists_endpoints_eq operates
  have get : method ≠ "GET" := foreign .get
  have post : method ≠ "POST" := foreign .post
  have refused : ∀ endpoint ∈ Endpoint.operations :: others,
      ¬endpoint.methods.contains method = true := by
    intro endpoint member
    rcases List.mem_cons.mp member with rfl | other
    · simp [Endpoint.methods, get, post]
    · rw [health endpoint other]
      simp [Endpoint.methods, get]
  simp only [find, endpoints, List.find?_eq_none.mpr refused]

end Responder

namespace Host

variable {responder : Responder} {arrival : Arrival}

private theorem isPlain_serve (service : Service State)
    (leads : responder.OperatesAt arrival.path) (state : State)
    (done : ∀ handler ∈ service.handler, ∀ (method : Method) (visit : Visit),
      arrival.method = method.name → arrival.visit? method = some visit →
        ∃ data, (handler.attend visit state).2 = .ok data) :
    ((Host.mk (some service)).serve responder arrival state).2.IsPlain arrival.mark := by
  -- By other methods nothing is reached, and the page for that holds nothing of the request.
  by_cases foreign : ∀ known : Method, arrival.method ≠ known.name
  · simp only [serve, Responder.find_otherMethods leads foreign]
    constructor
    · exact fun record kept => absurd kept List.not_mem_nil
    · exact fun _ _ => ⟨_, rfl, .ofList (by decide)⟩
  · push Not at foreign
    obtain ⟨method, asks⟩ := foreign
    rw [serve_operations rfl leads method asks]
    exact Route.isPlain_serve asks fun handler given visit => done handler given method visit asks

/-- Whatever a request to the route holds, as long as the handler does what it is
asked to do, all records of it have a printable message, and each is one line if the
mark of the request is printable.  The page of every refusal is printable too.
Neither page nor message is the same for two texts that name no operation. -/
theorem serve_legible (service : Service State)
    (leads : responder.OperatesAt arrival.path) (state : State)
    (done : ∀ handler ∈ service.handler, ∀ (method : Method) (visit : Visit),
      arrival.method = method.name → arrival.visit? method = some visit →
        ∃ data, (handler.attend visit state).2 = .ok data) :
    let served := ((Host.mk (some service)).serve responder arrival state).2
    (∀ record ∈ served.records, IsLegible record.event.message ∧
      (IsLegible arrival.mark → IsLegible record.line)) ∧
    (400 ≤ served.page.status → served.page.status < 500 →
      ∃ text : String, served.page.body = Text.Utf8.encode text.toList ∧ IsLegible text) ∧
    ∀ (other : Arrival) (method otherMethod : Method) (later : State),
      arrival.method = method.name → other.method = otherMethod.name →
        responder.OperatesAt other.path →
          (∀ operation : Operation,
            arrival.asked ≠ operation.name ∧ other.asked ≠ operation.name) →
            arrival.asked ≠ other.asked →
              let seen := ((Host.mk (some service)).serve responder other later).2
              served.page.body ≠ seen.page.body ∧
                served.records.map (·.event.message) ≠ seen.records.map (·.event.message) := by
  intro served
  have plain : served.IsPlain arrival.mark := isPlain_serve service leads state done
  refine ⟨fun record kept => ?_, plain.refusal, ?_⟩
  · exact ⟨(plain.records record kept).message, (plain.records record kept).line⟩
  intro other method otherMethod later asks otherAsks otherLeads unnamed differ seen
  have refuses : Refuses responder arrival _ :=
    refuses_unknown leads asks (Operation.ofName?_eq_none_iff.mpr fun name => (unnamed name).1)
  have otherRefuses : Refuses responder other _ :=
    refuses_unknown otherLeads otherAsks
      (Operation.ofName?_eq_none_iff.mpr fun name => (unnamed name).2)
  have told : served = _ := refuses.served service state
  have toldOther : seen = _ := otherRefuses.served service later
  have differs : (Failure.unknownOperation arrival.asked).message ≠
      (Failure.unknownOperation other.asked).message :=
    fun same => differ (Failure.unknownOperation_message_injective same)
  rw [told, toldOther]
  constructor
  · rw [Route.body_refuse, Route.body_refuse]
    exact fun same => differs (String.toList_inj.mp (Text.Utf8.encode_injective same))
  · intro same
    exact differs (Audit.Event.error_message_injective (List.cons.inj same).1)

/-- A line feed is told as a backslash and a letter, and these two in another way. -/
theorem serve_legible_lineFeed :
    let handler : Handler Nat :=
      ⟨fun message state => (state, .ok message), fun state => (state, .ok [])⟩
    let ask : String → Arrival := fun query =>
      { method := "GET", host := "ca", path := "/scep".toList, mark := "request"
        query := Text.Utf8.encode query.toList }
    let served := fun query => ((Host.mk (some ⟨[], ([], 0), some handler⟩)).serve
      ⟨"/scep".toList, "0.0.0.0", 8080, []⟩ (ask query) 0).2
    ((ask "operation=%0A").asked = "\n" ∧ (ask "operation=%5Cn").asked = "\\n") ∧
      (∀ record ∈ (served "operation=%0A").records, IsLegible record.line) ∧
      (served "operation=%0A").page.body ≠ (served "operation=%5Cn").page.body := by
  intro handler ask served
  have params : (ask "operation=%0A").params = [("operation", "\n")] := by cbv
  have otherParams : (ask "operation=%5Cn").params = [("operation", "\\n")] := by cbv
  have asked : (ask "operation=%0A").asked = "\n" := by
    rw [Arrival.asked, params]
    decide
  have otherAsked : (ask "operation=%5Cn").asked = "\\n" := by
    rw [Arrival.asked, otherParams]
    decide
  have leads : ∀ query, Responder.OperatesAt ⟨"/scep".toList, "0.0.0.0", 8080, []⟩
      (ask query).path := fun _ => Responder.operatesAt_of_path _ _ _
  have unnamed : ∀ operation : Operation,
      (ask "operation=%0A").asked ≠ operation.name ∧
        (ask "operation=%5Cn").asked ≠ operation.name := by
    rw [asked, otherAsked]
    intro operation
    cases operation <;> decide
  have legible := serve_legible ⟨[], ([], 0), some handler⟩ (leads "operation=%0A") 0 (by
    intro other given method visit _ _
    cases given
    cases visit <;> exact ⟨_, rfl⟩)
  obtain ⟨records, _, apart⟩ := legible
  refine ⟨⟨asked, otherAsked⟩, fun record kept => (records record kept).2 (.ofList (by decide)), ?_⟩
  have differ : (ask "operation=%0A").asked ≠ (ask "operation=%5Cn").asked := by
    rw [asked, otherAsked]
    decide
  exact (apart (ask "operation=%5Cn") .get .get 0 rfl rfl (leads _) unnamed differ).1

end Host

end Scep
