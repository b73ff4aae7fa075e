import Mathlib.Data.List.Induction
import Scep.Client.Script
import Scep.Proofs.Client.Erasure
import Scep.Proofs.Client.Loopback
import Scep.Proofs.Client.Report
import Scep.Proofs.Exchange.Body

/-!
The list that a client keeps, and the answers that it has received.

A transport may keep every delivery that it carries, with the request that was
answered.  A client on such a transport does what it does on any other, and the
list that it keeps is the last capability list among the answers so far.
-/

namespace Scep

open Session (Happening Erasure Report)

/-! ### Answers -/

def Outgoing.operation? (outgoing : Outgoing) : Option Operation :=
  ((Query.parse (outgoing.url.query.getD [])).last? "operation").bind Operation.ofName?

/-- The capability list in an answer: the whole body of a response to a request
for the list, if the response is no error and the body is neither empty nor
beyond the limit.  A redirection to no place is never read. -/
def capabilityList? (answer : Outgoing × Delivery) : Option Octets :=
  if answer.1.operation? = some .getCaCaps ∧ answer.2.status < 400 ∧
      Redirect.fault? answer.1.url answer.2 = none then
    answer.2.body?.filter fun body => !body.isEmpty && decide (body.length ≤ payloadLimit)
  else none

theorem capabilityList?_eq_some_iff {answer : Outgoing × Delivery} {list : Octets} :
    capabilityList? answer = some list ↔
      answer.1.operation? = some .getCaCaps ∧ answer.2.status < 400 ∧
        Redirect.fault? answer.1.url answer.2 = none ∧ answer.2.body? = some list ∧
        list ≠ [] ∧ list.length ≤ payloadLimit := by
  unfold capabilityList?
  split
  · rename_i asked
    obtain ⟨operation, fine, placed⟩ := asked
    rw [Option.filter_eq_some_iff, Bool.and_eq_true, Bool.not_eq_true', decide_eq_true_eq,
      List.isEmpty_eq_false_iff]
    constructor
    · rintro ⟨whole, given, within⟩
      exact ⟨operation, fine, placed, whole, given, within⟩
    · rintro ⟨_, _, _, whole, given, within⟩
      exact ⟨whole, given, within⟩
  · rename_i other
    constructor
    · intro given
      cases given
    · rintro ⟨operation, fine, placed, _⟩
      exact absurd ⟨operation, fine, placed⟩ other

/-- The last capability list among some answers, empty if there is none. -/
def latestList (answers : List (Outgoing × Delivery)) : Octets :=
  (answers.filterMap capabilityList?).getLast?.getD []

private theorem latestList_spec (answers : List (Outgoing × Delivery)) :
    (latestList answers = [] ∧ ∀ answer ∈ answers, capabilityList? answer = none) ∨
      ∃ earlier answer later, answers = earlier ++ answer :: later ∧
        capabilityList? answer = some (latestList answers) ∧
        ∀ other ∈ later, capabilityList? other = none := by
  induction answers using List.reverseRecOn with
  | nil =>
      left
      refine ⟨rfl, ?_⟩
      intro answer member
      cases member
  | append_singleton earlier last ih =>
      cases given : capabilityList? last with
      | some list =>
          right
          refine ⟨earlier, last, [], rfl, ?_, ?_⟩
          · rw [given, latestList, List.filterMap_append, List.filterMap_cons, given]
            simp only [List.filterMap_nil, List.getLast?_concat, Option.getD_some]
          · intro other member
            cases member
      | none =>
          have same : latestList (earlier ++ [last]) = latestList earlier := by
            rw [latestList, List.filterMap_append, List.filterMap_cons, given, List.filterMap_nil,
              List.append_nil, latestList]
          rw [same]
          -- The answer that came last is no list, so the one before it still counts.
          rcases ih with ⟨empty, nothing⟩ | ⟨before, answer, later, split, kept, nothing⟩
          · left
            refine ⟨empty, ?_⟩
            intro answer member
            rcases List.mem_append.mp member with old | new
            · exact nothing answer old
            · rw [List.mem_singleton.mp new]
              exact given
          · right
            refine ⟨before, answer, later ++ [last], ?_, kept, ?_⟩
            · rw [split, List.append_assoc, List.cons_append]
            · intro other member
              rcases List.mem_append.mp member with old | new
              · exact nothing other old
              · rw [List.mem_singleton.mp new]
                exact given

private theorem latestList_append {answers added : List (Outgoing × Delivery)}
    (nothing : ∀ answer ∈ added, capabilityList? answer = none) :
    latestList (answers ++ added) = latestList answers := by
  rw [latestList, List.filterMap_append, List.filterMap_eq_nil_iff.mpr nothing, List.append_nil,
    latestList]

private theorem latestList_append_ne_nil {answers : List (Outgoing × Delivery)}
    (given : latestList answers ≠ []) (added : List (Outgoing × Delivery)) :
    latestList (answers ++ added) ≠ [] := by
  rcases latestList_spec (answers ++ added) with ⟨_, nothing⟩ | ⟨_, answer, _, _, kept, _⟩
  · rcases latestList_spec answers with ⟨empty, _⟩ | ⟨earlier, answer, later, split, kept, _⟩
    · exact absurd empty given
    · have member : answer ∈ answers ++ added := by
        rw [split]
        exact List.mem_append_left added (List.mem_append_right earlier List.mem_cons_self)
      rw [nothing answer member] at kept
      cases kept
  · exact (capabilityList?_eq_some_iff.mp kept).2.2.2.2.1

/-! ### Transports that keep what they carry -/

/-- The state of the other end, and the deliveries so far, each with the request
that it answers. -/
structure Witnessed (Far : Type) where
  far : Far
  answers : List (Outgoing × Delivery) := []

variable {Far Held : Type}

/-- A transport that keeps every delivery that it carries. -/
def Transport.witnessed (transport : Transport Far Held) :
    Transport (Witnessed Far) (Outgoing × Held) where
  send := fun outgoing seen =>
    let (far, wait, held) := transport.send outgoing seen.far
    ({ seen with far }, wait, outgoing, held)
  receive := fun (outgoing, held) seen =>
    let (far, records, outcome) := transport.receive held seen.far
    let answers := match outcome with
      | .ok delivery => seen.answers ++ [(outgoing, delivery)]
      | .error _ => seen.answers
    (⟨far, answers⟩, records, outcome)

namespace Client

variable (client : Client) (transport : Transport Far Held)

def forgetting : Erasure (client.line transport.witnessed) (client.line transport) where
  far := fun wire => ⟨wire.far.far, wire.sent⟩
  held := fun pending => ⟨pending.request, pending.url, pending.held.2⟩
  starts ask wire := by
    simp only [line, send]
    cases Outgoing.ofRequest ask.method.name client.url ask.request with
    | error raised => rfl
    | ok outgoing => rfl
  finishes pending wire := by
    obtain ⟨request, url, outgoing, held⟩ := pending
    rcases known : transport.receive held wire.far.far with ⟨far, records, outcome⟩
    cases outcome with
    | error fault => simp only [line, receive, Transport.witnessed, known]
    | ok delivery =>
        cases placed : Redirect.fault? url delivery with
        | some fault => simp only [line, receive, Transport.witnessed, known, placed]
        | none =>
            simp only [line, receive, Transport.witnessed, known, placed]
            cases (delivery.receive request.operation).outcome <;> rfl
  tells := rfl

theorem operation?_of_ofRequest {text : String} {url : Url} {request : Request}
    {outgoing : Outgoing} (made : Outgoing.ofRequest text url request = .ok outgoing) :
    outgoing.operation? = request.operation := by
  obtain ⟨method, place, _, query, madeOf⟩ := Outgoing.madeOf_of_ofRequest made
  rw [Outgoing.operation?, madeOf.url, query, Option.getD_some, Query.parse_render,
    Outgoing.last?_operation_queryOf]
  exact Operation.ofName?_operationName request.operation

private theorem filterMap_of_receive {outgoing : Outgoing} {delivery : Delivery}
    {operation : Option Operation} {response : Response}
    (placed : Redirect.fault? outgoing.url delivery = none)
    (received : (delivery.receive operation).outcome = .ok response) :
    [(outgoing, delivery)].filterMap capabilityList? =
      Session.brought (outgoing.operation? == some .getCaCaps) response.data := by
  obtain ⟨fine, whole, within, _⟩ := Delivery.of_receive_eq_ok received
  by_cases asked : outgoing.operation? = some .getCaCaps
  · cases data : response.data with
    | nil =>
        have nothing : capabilityList? (outgoing, delivery) = none := by
          rw [Option.eq_none_iff_forall_ne_some]
          intro list given
          obtain ⟨_, _, _, also, full, _⟩ := capabilityList?_eq_some_iff.mp given
          rw [whole, data] at also
          cases also
          exact full rfl
        rw [List.filterMap_cons, nothing, Session.brought, List.isEmpty_nil, Bool.not_true,
          Bool.and_false]
        rfl
    | cons first rest =>
        rw [data] at whole within
        have brings : capabilityList? (outgoing, delivery) = some (first :: rest) :=
          capabilityList?_eq_some_iff.mpr
            ⟨asked, fine, placed, whole, List.cons_ne_nil first rest, within⟩
        rw [List.filterMap_cons, brings, asked, Session.brought]
        rfl
  · have nothing : capabilityList? (outgoing, delivery) = none := by
      rw [Option.eq_none_iff_forall_ne_some]
      intro list given
      exact asked (capabilityList?_eq_some_iff.mp given).1
    rw [List.filterMap_cons, nothing, beq_eq_false_iff_ne.mpr asked, Session.brought_false]
    rfl

private theorem capabilityList?_of_refused {outgoing : Outgoing} {delivery : Delivery}
    {operation : Option Operation} {raised : Raised}
    (refused : (delivery.receive operation).outcome = .error raised) :
    capabilityList? (outgoing, delivery) = none := by
  rw [Option.eq_none_iff_forall_ne_some]
  intro list given
  obtain ⟨_, fine, _, whole, _, within⟩ := capabilityList?_eq_some_iff.mp given
  obtain ⟨response, received, _⟩ := Delivery.receive_of_body fine whole within
  rw [refused] at received
  cases received

private theorem capabilityList?_of_misplaced {outgoing : Outgoing} {delivery : Delivery}
    {fault : Fault} (misplaced : Redirect.fault? outgoing.url delivery = some fault) :
    capabilityList? (outgoing, delivery) = none := by
  rw [Option.eq_none_iff_forall_ne_some]
  intro list given
  obtain ⟨_, _, placed, _⟩ := capabilityList?_eq_some_iff.mp given
  rw [misplaced] at placed
  cases placed

def report : Report (client.line transport.witnessed) (Outgoing × Delivery) where
  heard wire := wire.far.answers
  list? := capabilityList?
  asks pending ask :=
    pending.held.1.operation? = ask.request.operation ∧ pending.url = pending.held.1.url
  starts ask wire := by
    cases made : Outgoing.ofRequest ask.method.name client.url ask.request with
    | error raised =>
        simp only [line, send, made]
        exact ⟨trivial, fun wait held same => by cases same⟩
    | ok outgoing =>
        simp only [line, send, made]
        refine ⟨rfl, ?_⟩
        intro wait held same
        cases same
        refine ⟨?_, rfl⟩
        rw [← operation?_of_ofRequest made]
        change outgoing.authorized.operation? = outgoing.operation?
        rw [Outgoing.operation?, Loopback.url_authorized, Outgoing.operation?]
  finishes {pending ask} wire asked := by
    obtain ⟨request, url, outgoing, held⟩ := pending
    obtain ⟨operation, place⟩ := asked
    dsimp only at operation place
    subst place
    rcases known : transport.receive held wire.far.far with ⟨far, records, outcome⟩
    cases outcome with
    | error fault =>
        simp only [line, receive, Transport.witnessed, known]
        exact ⟨[], (List.append_nil _).symm, rfl⟩
    | ok delivery =>
        refine ⟨[(outgoing, delivery)], ?_⟩
        cases placed : Redirect.fault? outgoing.url delivery with
        | some fault =>
            simp only [line, receive, Transport.witnessed, known, placed]
            refine ⟨trivial, ?_⟩
            rw [List.filterMap_cons, capabilityList?_of_misplaced placed, List.filterMap_nil]
        | none =>
            cases received : (delivery.receive request.operation).outcome with
            | error raised =>
                simp only [line, receive, Transport.witnessed, known, placed, received]
                refine ⟨trivial, ?_⟩
                rw [List.filterMap_cons, capabilityList?_of_refused received, List.filterMap_nil]
            | ok response =>
                simp only [line, receive, Transport.witnessed, known, placed, received]
                obtain ⟨_, _, _, fine⟩ := Delivery.of_receive_eq_ok received
                refine ⟨trivial, fine, ?_⟩
                rw [filterMap_of_receive placed received, operation]
                rfl

private theorem attends_session (far : Far) :
    (client.report transport).Attends [] (client.session ⟨far, []⟩).core where
  past := List.nil_prefix
  keeps := {
    kept := rfl
    numbered := fun placed => by cases placed
    distinct := fun placed => by cases placed
    fits := fun placed => by cases placed }

/-- Whatever happens to a client, its cache holds nothing until the first
capability list has been received, and from then on the one received last.  Other
answers change nothing, and a list that is kept is never lost. -/
theorem cache_history (client : Client) (transport : Transport Far Held) (far : Far)
    (before after : List Happening) :
    let session := fun happenings =>
      (client.session far).run (client.line transport) happenings
    let witness := fun happenings =>
      (client.session ⟨far, []⟩).run (client.line transport.witnessed) happenings
    let kept := fun happenings => (session happenings).cache.stored
    let answers := fun happenings => (witness happenings).far.far.answers
    (client.forgetting transport).session (witness before) = session before ∧
      ((kept before = [] ∧ ∀ answer ∈ answers before, capabilityList? answer = none) ∨
        ∃ earlier answer later, answers before = earlier ++ answer :: later ∧
          capabilityList? answer = some (kept before) ∧
          ∀ other ∈ later, capabilityList? other = none) ∧
      (∃ added, answers (before ++ after) = answers before ++ added ∧
        ((∀ answer ∈ added, capabilityList? answer = none) →
          kept (before ++ after) = kept before)) ∧
      ((session before).cache.state = .populated →
        (session (before ++ after)).cache.state = .populated) := by
  intro session witness kept answers
  have forgets : ∀ happenings, (client.forgetting transport).session (witness happenings) =
      session happenings := fun happenings =>
    (client.forgetting transport).run (client.session ⟨far, []⟩) happenings
  have keeps : ∀ happenings, kept happenings = latestList (answers happenings) := by
    intro happenings
    have attends := (client.attends_session transport far).run happenings
    change (session happenings).cache.stored = _
    rw [← forgets happenings]
    exact attends.keeps.kept
  obtain ⟨added, grown⟩ : answers before <+: answers (before ++ after) := by
    -- What was heard before is the past of all that comes after.
    have attends := (client.attends_session transport far).run before
    have later : (client.report transport).Attends (answers before)
        ((witness before).run (client.line transport.witnessed) after).core :=
      Report.Attends.run ⟨List.prefix_refl _, attends.keeps⟩ after
    rw [← Session.run_append] at later
    exact later.past
  refine ⟨forgets before, ?_, ⟨added, grown.symm, ?_⟩, ?_⟩
  · rw [keeps before]
    exact latestList_spec (answers before)
  · intro nothing
    rw [keeps, keeps, ← grown]
    exact latestList_append nothing
  · rw [Cache.state_eq_populated_iff, Cache.state_eq_populated_iff]
    change kept before ≠ [] → kept (before ++ after) ≠ []
    rw [keeps, keeps, ← grown]
    exact fun given => latestList_append_ne_nil given added

-- The first answer brings a list, the second one breaks off, and the third one is empty.
example :
    let client : Client := ⟨{ scheme := "http".toList, host := ['a'], path := ['/'] }, none⟩
    let script : Script := ⟨[("GetCACaps",
      [{ delivery := { status := 200, pieces := [[65], [66]] } },
        { delivery := { status := 200, pieces := [[67]], fault := some (.network .readError "") } },
        { delivery := { status := 200 } }])]⟩
    let kept := fun happenings =>
      ((client.session script).run (client.line Script.transport) happenings).cache.stored
    let query : List Happening := [.called .capabilities none, .performed 0]
    kept [] = [] ∧ kept query = [65, 66] ∧ kept (query ++ query) = [65, 66] ∧
      kept (query ++ query ++ query) = [65, 66] := by
  decide +kernel

end Client

end Scep
