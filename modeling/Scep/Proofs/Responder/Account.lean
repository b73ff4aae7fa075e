import Scep.Proofs.Responder.Visit

/-!
The answer to a request and what is recorded of it.

A request takes one of three courses: it is refused before an operation is
performed, or the operation fails, or it is answered.  Answer and records belong
to the course.  The status of a failure is its own only if the request was
refused, and only a request that was not refused counts as served.
-/

namespace Scep

variable {State : Type}

/-! ### Courses -/

inductive Course where
  | refused (failure : Failure)
  | failed (operation : Operation) (failure : Failure)
  | answered (operation : Operation) (response : Response)

/-- The course of a request, by what it asks for, the message that it carries and
what the service makes of both. -/
inductive Service.Takes (service : Service State) (arrival : Arrival) (method : Method)
    (state : State) : Course → Prop where
  | unknown (unnamed : ∀ operation : Operation, arrival.asked ≠ operation.name) :
    Takes service arrival method state (.refused (.unknownOperation arrival.asked))
  | unread {operation : Operation} {failure : Failure} {origin : Option Fault}
      (named : arrival.asked = operation.name)
      (unread : arrival.carried method = .error ⟨.failure failure, origin⟩) :
    Takes service arrival method state (.refused failure)
  | failed {operation : Operation} {message : Octets} {failure : Failure}
      (named : arrival.asked = operation.name) (carried : arrival.carried method = .ok message)
      (performed : (service.perform operation message state).2 = .error (.failure failure)) :
    Takes service arrival method state (.failed operation failure)
  | answered {operation : Operation} {message : Octets} {response : Response}
      (named : arrival.asked = operation.name) (carried : arrival.carried method = .ok message)
      (performed : (service.perform operation message state).2 = .ok response) :
    Takes service arrival method state (.answered operation response)

private theorem Operation.name_injective {first second : Operation}
    (same : first.name = second.name) :
    first = second := by
  have known := ofName?_name first
  rw [same, ofName?_name] at known
  exact (Option.some.inj known).symm

namespace Service.Takes

variable {service : Service State} {arrival : Arrival} {method : Method} {state : State}
  {operation : Operation} {course : Course}

private theorem iff_of_unnamed (unnamed : ∀ operation : Operation, arrival.asked ≠ operation.name) :
    service.Takes arrival method state course ↔
      course = .refused (.unknownOperation arrival.asked) := by
  constructor
  · intro takes
    cases takes with
    | unknown _ => rfl
    | unread named _ => exact absurd named (unnamed _)
    | failed named _ _ => exact absurd named (unnamed _)
    | answered named _ _ => exact absurd named (unnamed _)
  · rintro rfl
    exact .unknown unnamed

private theorem iff_of_unread {failure : Failure} {origin : Option Fault}
    (named : arrival.asked = operation.name)
    (unread : arrival.carried method = .error ⟨.failure failure, origin⟩) :
    service.Takes arrival method state course ↔ course = .refused failure := by
  constructor
  · intro takes
    cases takes with
    | unknown unnamed => exact absurd named (unnamed operation)
    | unread _ other =>
        rw [unread] at other
        cases other
        rfl
    | failed _ carried _ =>
        rw [unread] at carried
        cases carried
    | answered _ carried _ =>
        rw [unread] at carried
        cases carried
  · rintro rfl
    exact .unread named unread

/-- What the service makes of a message that was read is all that matters then. -/
theorem iff_of_carried {message : Octets} (named : arrival.asked = operation.name)
    (carried : arrival.carried method = .ok message) :
    service.Takes arrival method state course ↔
      (∃ failure, (service.perform operation message state).2 = .error (.failure failure) ∧
        course = .failed operation failure) ∨
      ∃ response, (service.perform operation message state).2 = .ok response ∧
        course = .answered operation response := by
  constructor
  · intro takes
    cases takes with
    | unknown unnamed => exact absurd named (unnamed operation)
    | unread _ unread =>
        rw [carried] at unread
        cases unread
    | failed other read performed =>
        obtain rfl := Operation.name_injective (named.symm.trans other)
        rw [carried] at read
        cases read
        exact Or.inl ⟨_, performed, rfl⟩
    | answered other read performed =>
        obtain rfl := Operation.name_injective (named.symm.trans other)
        rw [carried] at read
        cases read
        exact Or.inr ⟨_, performed, rfl⟩
  · rintro (⟨failure, performed, rfl⟩ | ⟨response, performed, rfl⟩)
    · exact .failed named carried performed
    · exact .answered named carried performed

end Service.Takes

/-! ### Failures of the protocol layer alone -/

structure Handler.Reports (handler : Handler State) : Prop where
  enroll : ∀ message state fault, (handler.enroll message state).2 = .error fault →
    ∃ failure, fault = .failure failure
  nextCertificate : ∀ state fault, (handler.nextCertificate state).2 = .error fault →
    ∃ failure, fault = .failure failure

private theorem Service.handle_error {service : Service State} {operation : Operation}
    {task : Handler State → State → State × Except Fault Octets} {state : State} {fault : Fault}
    (reports : ∀ handler ∈ service.handler, (task handler state).2 = .error fault →
      ∃ failure, fault = .failure failure)
    (failed : (service.handle operation task state).2 = .error fault) :
    ∃ failure, fault = .failure failure := by
  unfold handle at failed
  cases given : service.handler with
  | none =>
      rw [given] at failed
      cases failed
      exact ⟨_, rfl⟩
  | some handler =>
      simp only [given] at failed
      cases outcome : (task handler state).2 with
      | error other =>
          rw [outcome] at failed
          cases failed
          exact reports handler given outcome
      | ok data =>
          rw [outcome] at failed
          cases failed

private theorem Service.perform_error {service : Service State} {operation : Operation}
    {message : Octets} {state : State} {fault : Fault}
    (reports : ∀ handler ∈ service.handler, handler.Reports)
    (failed : (service.perform operation message state).2 = .error fault) :
    ∃ failure, fault = .failure failure := by
  cases operation with
  | getCaCaps => cases failed
  | getCaCert => cases failed
  | pkiOperation =>
      exact handle_error (fun handler given => (reports handler given).enroll message state fault)
        failed
  | getNextCaCert =>
      exact handle_error (fun handler given => (reports handler given).nextCertificate state fault)
        failed

private theorem Service.handle_ok {service : Service State} {operation : Operation}
    {task : Handler State → State → State × Except Fault Octets} {state : State}
    {response : Response} (done : (service.handle operation task state).2 = .ok response) :
    response.operation = some operation ∧ response.error = none := by
  unfold handle at done
  cases given : service.handler with
  | none =>
      rw [given] at done
      cases done
  | some handler =>
      simp only [given] at done
      cases outcome : (task handler state).2 with
      | error fault =>
          rw [outcome] at done
          cases done
      | ok data =>
          rw [outcome] at done
          cases done
          exact ⟨rfl, rfl⟩

theorem Service.perform_ok {service : Service State} {operation : Operation} {message : Octets}
    {state : State} {response : Response}
    (done : (service.perform operation message state).2 = .ok response) :
    response.operation = some operation ∧ response.error = none := by
  cases operation with
  | getCaCaps =>
      cases done
      exact ⟨rfl, rfl⟩
  | getCaCert =>
      cases done
      exact ⟨rfl, rfl⟩
  | pkiOperation => exact handle_ok done
  | getNextCaCert => exact handle_ok done

private theorem Arrival.carried_error {arrival : Arrival} {method : Method} {raised : Raised}
    (ascii : method = .get → ∀ value, arrival.params.last? "message" = some value →
      Message.IsAscii value)
    (unread : arrival.carried method = .error raised) :
    ∃ failure origin, raised = ⟨.failure failure, origin⟩ := by
  cases method with
  | post =>
      have refused : Message.ofBody arrival.pieces.flatten = .error raised := unread
      unfold Message.ofBody at refused
      split at refused
      · cases refused
        exact ⟨_, _, rfl⟩
      · cases refused
  | get =>
      cases given : arrival.params.last? "message" with
      | none =>
          rw [carried, given, Option.getD_none, Message.ofQueryValue_empty] at unread
          cases unread
      | some value =>
          rw [carried, given, Option.getD_some] at unread
          obtain ⟨flaw, rfl⟩ := Message.invalidMessage_of_ofQueryValue (ascii rfl value given) unread
          exact ⟨_, _, rfl⟩

/-! ### Answers and records -/

/-- What a request of each course is answered with, and what is recorded of it. -/
def Course.Accounts (arrival : Arrival) (served : Served) : Course → Prop
  | .refused failure =>
    served.page = .text failure.status failure.message ∧
      served.records = [{ event := .error (.failure failure) "request_handling" }]
  | .failed operation failure =>
    served.page = .text 500 failure.message ∧
      served.records = [.during arrival.mark (.error (.failure failure) operation.name),
        .during arrival.mark (.requestServed operation.name arrival.method 500 0)]
  | .answered operation response =>
    served.page = ⟨200, [("content-length", toString response.data.length),
        ("content-type", MediaType.ofAnswer (some operation) response.certificates)],
      response.data⟩ ∧
      served.records = [.during arrival.mark
        (.requestServed operation.name arrival.method 200 served.page.body.length)]

private theorem Course.accounts_answered (arrival : Arrival) (pulled : Nat) {operation : Operation}
    {response : Response} (own : response.operation = some operation)
    (fine : response.error = none) :
    (Course.answered operation response).Accounts arrival
      (Route.conclude arrival operation pulled (.ok response)) := by
  have answer : Answer.ofResponse response =
      ⟨200, MediaType.ofAnswer (some operation) response.certificates, response.data⟩ := by
    simp only [Answer.ofResponse, fine, own]
  simp only [Accounts, Route.conclude, answer, Page.ofAnswer, Answer.headers, List.nil_append,
    Nat.cast_ofNat, and_self]

namespace Host

variable {arrival : Arrival} {responder : Responder} {method : Method}

/-- As long as all that goes wrong is a failure of the protocol layer, a request
takes exactly one of the three courses, and its answer and records are those of
the course. -/
theorem serve_accounts (service : Service State)
    (leads : responder.OperatesAt arrival.path)
    (asks : arrival.method = method.name)
    (ascii : method = .get → ∀ value, arrival.params.last? "message" = some value →
      Message.IsAscii value)
    (reports : ∀ handler ∈ service.handler, handler.Reports) (state : State) :
    let served := ((Host.mk (some service)).serve responder arrival state).2
    ∃ course : Course,
      (∀ other, service.Takes arrival method state other ↔ other = course) ∧
        course.Accounts arrival served ∧ served.escaped = none := by
  intro served
  have routed : served = (Route.serve service arrival state).2 :=
    congrArg Prod.snd (serve_operations rfl leads method asks state)
  cases known : Operation.ofName? arrival.asked with
  | none =>
      have unnamed := Operation.ofName?_eq_none_iff.mp known
      rw [routed, Route.serve_unknown known]
      exact ⟨_, fun _ => Service.Takes.iff_of_unnamed unnamed, ⟨rfl, rfl⟩, rfl⟩
  | some operation =>
      have named := Operation.ofName?_eq_some_iff.mp known
      cases carried : arrival.carried method with
      | error raised =>
          obtain ⟨failure, origin, rfl⟩ := Arrival.carried_error ascii carried
          rw [routed, Route.serve_unread asks known carried]
          exact ⟨_, fun _ => Service.Takes.iff_of_unread named carried, ⟨rfl, rfl⟩, rfl⟩
      | ok message =>
          rw [routed, Route.serve_performed asks known carried]
          have takes : ∀ other, service.Takes arrival method state other ↔ _ :=
            fun _ => Service.Takes.iff_of_carried named carried
          cases performed : (service.perform operation message state).2 with
          | error fault =>
              obtain ⟨failure, rfl⟩ := Service.perform_error reports performed
              refine ⟨.failed operation failure, fun other => ?_, ⟨rfl, rfl⟩, rfl⟩
              rw [takes other, performed]
              simp
          | ok response =>
              obtain ⟨own, fine⟩ := Service.perform_ok performed
              refine ⟨.answered operation response, fun other => ?_,
                Course.accounts_answered _ _ own fine, rfl⟩
              rw [takes other, performed]
              simp

/-- A handler reports a failure whose own status is that of a deadline. -/
theorem serve_accounts_failed :
    let failure : Failure := .reported .requestCancelled "late" []
    let handler : Handler Nat :=
      ⟨fun _ state => (state, .error (.failure failure)), fun state => (state, .ok [])⟩
    let service : Service Nat := ⟨[], ([], 0), some handler⟩
    let arrival : Arrival :=
      { method := "POST", host := "ca", path := "/scep".toList, mark := "request"
        query := Text.Utf8.encode "operation=PKIOperation".toList, pieces := [[1], [2]] }
    let responder : Responder := ⟨"/scep".toList, "0.0.0.0", 8080, []⟩
    let served := ((Host.mk (some service)).serve responder arrival 0).2
    failure.status = 504 ∧ handler.Reports ∧ served.page = .text 500 "late" ∧
      served.records = [⟨"request", .error (.failure failure) "PKIOperation"⟩,
        ⟨"request", .requestServed "PKIOperation" "POST" 500 0⟩] := by
  intro failure handler service arrival responder served
  have reports : handler.Reports := by
    constructor
    · intro message state fault failed
      cases failed
      exact ⟨failure, rfl⟩
    · intro state fault failed
      cases failed
  have all : ∀ other ∈ service.handler, other.Reports := by
    intro other given
    cases given
    exact reports
  have params : arrival.params = [("operation", "PKIOperation")] := by cbv
  have asked : arrival.asked = "PKIOperation" := by
    rw [Arrival.asked, params]
    decide
  have carried : arrival.carried .post = .ok [1, 2] := by
    rw [Arrival.carried, Message.ofBody]
    decide
  obtain ⟨course, only, accounts, _⟩ := serve_accounts service
    (show responder.OperatesAt arrival.path by decide)
    (show arrival.method = Method.post.name from rfl)
    (fun get => absurd get (by decide)) all 0
  have named : arrival.asked = Operation.name .pkiOperation := asked
  have takes : service.Takes arrival .post 0 (.failed .pkiOperation failure) :=
    .failed named carried rfl
  obtain rfl := (only _).mp takes
  exact ⟨rfl, reports, accounts.1, accounts.2⟩

end Host

end Scep
