import Scep.Proofs.Client.Reading

/-!
A call for enrollment on a client that is at rest.

Once the call has the capability list, kept or fetched, it makes one exchange by
the method that the list calls for.
-/

namespace Scep

variable {Far Held : Type}

/-- An exchange that waits for its turn and then brings a payload. -/
def Line.Brings (line : Line Far Held) (ask : Ask) (before after : Far) (data : Octets) : Prop :=
  ∃ sent held asking answering response,
    line.start ask before = (sent, asking, .ok (.turn, held)) ∧
      line.finish held sent = (after, answering, .ok response) ∧
      response.error = none ∧ response.data = data

namespace Session

variable {session looked last : Session Far Held} {line : Line Far Held} {index : Nat}
  {message : Octets} {deadline : Option Deadline}

/-- The exchange of a call for enrollment that has a capability list. -/
def enrollment (list message : Octets) : Ask := ⟨methodFor list, ⟨some .pkiOperation, message⟩⟩

/-! ### With the list -/

def selection (list : Octets) : Audit.Record :=
  { event := .transportSelected Operation.pkiOperation.name (methodFor list).name }

private theorem listed_enroll (session : Session Far Held) (line : Line Far Held) (index : Nat)
    (message : Octets) (deadline : Option Deadline) (list : Octets) :
    session.listed line index (.call (.enroll message) deadline) (.value list) =
      (session.record [selection list]).exchange line index (.call (.enroll message) deadline)
        (enrollment list message) := rfl

private theorem listed_sent {list : Octets} {stage : Stage Held} {isRoused : Bool} {sent : Far}
    {held : Held} {asking : List Audit.Record}
    (calls : session.Calls index (.enroll message) deadline stage isRoused)
    (started : line.start (enrollment list message) session.far =
      (sent, asking, .ok (.turn, held))) :
    let next := session.listed line index (.call (.enroll message) deadline) (.value list)
    next.queue = session.queue ++ [.wake index] ∧
      next.Calls index (.enroll message) deadline (.sending held) true ∧ next.far = sent := by
  have exchanged := exchange_sent (session.record [selection list])
    (.call (.enroll message) deadline) started calls
  rw [← listed_enroll] at exchanged
  exact ⟨exchanged.queue, exchanged.task _ calls, exchanged.far⟩

private theorem listed_refused {list : Octets} {stage : Stage Held} {isRoused : Bool} {after : Far}
    {asking : List Audit.Record} {raised : Raised}
    (calls : session.Calls index (.enroll message) deadline stage isRoused)
    (refused : line.start (enrollment list message) session.far = (after, asking, .error raised)) :
    let next := session.listed line index (.call (.enroll message) deadline) (.value list)
    let told :=
      line.tell .pkiOperation (session.deadlineOf (.call (.enroll message) deadline)) raised
    next.queue = session.queue ∧
      next.Calls index (.enroll message) deadline (.ended (.failed told)) false ∧
      next.far = after := by
  obtain ⟨asked, records, failed⟩ := exchange_refused
    (session.record [selection list]) index (.enroll message) rfl refused
  rw [← listed_enroll] at failed
  rw [failed]
  exact ⟨rfl, update_tasks_self _ calls _, rfl⟩

/-! ### The whole call -/

private theorem GoesOn.enrolled {list : Octets} {after : Far} {data : Octets}
    (goesOn : GoesOn line index (.enroll message) deadline list session looked last)
    (brings : line.Brings (enrollment list message) looked.far after data) :
    last.ending? index = some (.value (.octets data)) ∧ last.far = after := by
  obtain ⟨sent, held, _, answering, response, started, finished, fine, rfl⟩ := brings
  obtain ⟨begun, entry, fuel, reached, queue, inside, going, performed⟩ := goesOn.comes
  obtain ⟨stage, isRoused, calls⟩ := goesOn.calls
  obtain ⟨asks, stands, sentFar⟩ := listed_sent calls started
  rw [goesOn.quiet] at asks
  rw [← sentFar] at finished
  have stepped : await line index (fuel + 4) begun = _ := await_step queue inside performed
    (stands.not_isOver (by intro ending same; cases same))
  rw [reached, stepped]
  obtain ⟨ended, far, _⟩ := await_sending fuel asks stands finished fine
  exact ⟨ended, far⟩

private theorem GoesOn.refused {list : Octets} {after : Far} {asking : List Audit.Record}
    {raised : Raised}
    (goesOn : GoesOn line index (.enroll message) deadline list session looked last)
    (refused : line.start (enrollment list message) looked.far = (after, asking, .error raised)) :
    let told :=
      line.tell .pkiOperation (session.deadlineOf (.call (.enroll message) deadline)) raised
    last.ending? index = some (.failed told) ∧ last.far = after := by
  obtain ⟨begun, entry, fuel, reached, queue, inside, going, performed⟩ := goesOn.comes
  obtain ⟨stage, isRoused, calls⟩ := goesOn.calls
  obtain ⟨quiet, stopped, far⟩ := listed_refused calls refused
  have limited : looked.deadlineOf (.call (.enroll message) deadline) =
      session.deadlineOf (.call (.enroll message) deadline) := by
    simp only [deadlineOf, goesOn.deadline]
  rw [limited] at stopped
  rw [goesOn.quiet] at quiet
  have stepped : await line index (fuel + 4) begun = _ :=
    await_last queue inside performed going (isOver_of_stage stopped rfl) quiet
  rw [reached, stepped]
  exact ⟨ending?_of_stage stopped rfl, far⟩

theorem join_enroll_kept (rest : session.AtRest) (kept : session.cache.stored ≠ [])
    (later : ∀ due, session.deadlineOf (.call (.enroll message) deadline) = some due →
      ¬due.seconds ≤ 0)
    {after : Far} {data : Octets}
    (brings : line.Brings (enrollment session.cache.stored message) session.far after data) :
    let last := (session.add (.call (.enroll message) deadline)).join line session.tasks.length
    last.ending? session.tasks.length = some (.value (.octets data)) ∧ last.far = after := by
  obtain ⟨looked, goesOn, far, _⟩ := join_kept line rest rfl kept later
  rw [← far] at brings
  exact goesOn.enrolled brings

theorem join_enroll_refused (rest : session.AtRest) (kept : session.cache.stored ≠ [])
    (later : ∀ due, session.deadlineOf (.call (.enroll message) deadline) = some due →
      ¬due.seconds ≤ 0)
    {after : Far} {asking : List Audit.Record} {raised : Raised}
    (refused : line.start (enrollment session.cache.stored message) session.far =
      (after, asking, .error raised)) :
    let last := (session.add (.call (.enroll message) deadline)).join line session.tasks.length
    let told :=
      line.tell .pkiOperation (session.deadlineOf (.call (.enroll message) deadline)) raised
    last.ending? session.tasks.length = some (.failed told) ∧ last.far = after := by
  obtain ⟨looked, goesOn, far, _⟩ := join_kept line rest rfl kept later
  rw [← far] at refused
  exact goesOn.refused refused

theorem join_enroll_missing (rest : session.AtRest) (missing : session.cache.stored = [])
    (later : ∀ due, session.deadlineOf (.call (.enroll message) deadline) = some due →
      ¬due.seconds ≤ 0)
    (laterFetch : ∀ due, session.deadline = some due → ¬due.seconds ≤ 0)
    {between after : Far} {list data : Octets}
    (fetches : line.Brings .capabilities session.far between list)
    (brings : line.Brings (enrollment list message) between after data) :
    let last := (session.add (.call (.enroll message) deadline)).join line session.tasks.length
    last.ending? session.tasks.length = some (.value (.octets data)) ∧ last.far = after := by
  obtain ⟨sent, held, _, _, answer, started, finished, fine, rfl⟩ := fetches
  obtain ⟨looked, goesOn, far, _⟩ :=
    join_missing rest rfl missing later laterFetch started finished fine
  rw [← far] at brings
  exact goesOn.enrolled brings

end Session

end Scep
