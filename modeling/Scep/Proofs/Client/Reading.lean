import Scep.Proofs.Client.Session

/-!
Calls on a client that is at rest.

A call that needs the capability list looks for it, and waits for a fetch if none
is kept.  Each entry of the queue has a lemma that says where the call stands
after it, and the run goes through them in order until the call goes on with the
list.
-/

namespace Scep

variable {Far Held : Type}

def Call.needsList : Call → Bool
  | .list | .supports _ | .enroll _ => true
  | .capabilities | .certificate | .nextCertificate | .close => false

namespace Session

variable {session : Session Far Held} {line : Line Far Held} {index : Nat} {call : Call}
  {deadline : Option Deadline}

/-- Nothing can run, no fetch is under way and nobody waits for one. -/
structure AtRest (session : Session Far Held) : Prop where
  queue : session.queue = []
  watchers : session.watchers = []
  slot : session.cache.slot = none

def Calls (session : Session Far Held) (index : Nat) (call : Call) (deadline : Option Deadline)
    (stage : Stage Held) (isRoused : Bool) : Prop :=
  session.tasks[index]? = some { work := .call call deadline, stage, isRoused }

theorem Calls.not_isOver {stage : Stage Held} {isRoused : Bool}
    (calls : session.Calls index call deadline stage isRoused)
    (going : ∀ ending, stage ≠ .ended ending) : session.isOver index = false :=
  not_isOver_of_stage calls going

private theorem Calls.listing_not_isOver {reader : Nat} {isRoused : Bool}
    (calls : session.Calls index call deadline (.listing reader) isRoused) :
    session.isOver index = false :=
  calls.not_isOver (by intro ending same; cases same)

theorem later_of_onTime
    (onTime : ∀ due, deadline = some due ∨ session.deadline = some due → ¬due.seconds ≤ 0) :
    ∀ due, session.deadlineOf (.call call deadline) = some due → ¬due.seconds ≤ 0 := by
  intro due limits
  cases deadline with
  | none => exact onTime due (Or.inr limits)
  | some own => exact onTime due (Or.inl limits)

theorem onTime_of_none (unlimited : session.deadline = none) :
    ∀ due, (none : Option Deadline) = some due ∨ session.deadline = some due →
      ¬due.seconds ≤ 0 := by
  intro due given
  rcases given with own | general
  · cases own
  · rw [unlimited] at general
    cases general

theorem join_call (line : Line Far Held) (rest : session.AtRest) (call : Call)
    (deadline : Option Deadline) :
    ∃ fuel, (session.add (.call call deadline)).join line session.tasks.length =
      await line session.tasks.length (fuel + 8) (session.add (.call call deadline)) ∧
      (session.add (.call call deadline)).queue = [.begin session.tasks.length] ∧
      (session.add (.call call deadline)).Calls session.tasks.length call deadline .queued
        false := by
  have queued : (session.add (.call call deadline)).Calls session.tasks.length call deadline
      .queued false := List.getElem?_concat_length
  have going := queued.not_isOver (by intro ending same; cases same)
  have enough : 8 ≤ (session.add (.call call deadline)).fuel := by
    rw [fuel]
    omega
  refine ⟨(session.add (.call call deadline)).fuel - 8, ?_, ?_, queued⟩
  · rw [join, going, if_neg Bool.false_ne_true, Nat.sub_add_cancel enough]
  · rw [add, rest.queue]
    rfl

theorem await_sending {held : Held} {after : Far} {answering : List Audit.Record}
    {response : Response} (fuel : Nat) (queue : session.queue = [.wake index])
    (calls : session.Calls index call deadline (.sending held) true)
    (finished : line.finish held session.far = (after, answering, .ok response))
    (fine : response.error = none) :
    let last := await line index (fuel + 3) session
    last.ending? index = some (.value (given response call)) ∧ last.far = after ∧
      last.cache = (if call = .capabilities then session.cache.replace response.data
        else session.cache) ∧
      last.records =
        (if call = .capabilities then [listUpdated response.data false] else []) ++
          (answering.reverse ++ session.records) ∧
      last.queue = [] ∧ last.watchers = session.watchers := by
  let rest : Session Far Held := { session with queue := [] }
  have performed : rest.perform line (.wake index) =
      rest.finish line index (.call call deadline) held := by
    have found : rest.tasks[index]? = _ := calls
    simp only [perform, found, goOn, Bool.or_self, Bool.false_eq_true, if_false, if_true]
  have done : rest.finish line index (.call call deadline) held =
      (({ rest with far := after } : Session Far Held).record answering).deliver index
        (.call call deadline) response := by
    simp only [finish, finished, rest]
  rw [done, deliver_call _ index call deadline fine] at performed
  have task := update_tasks_self rest calls fun task =>
    { task with stage := .ended (.value (given response call)), isRoused := false }
  intro last
  have reached : last = _ := await_last queue (by intro same; cases same) performed
    (calls.not_isOver (by intro ending same; cases same)) (isOver_of_stage task rfl) rfl
  rw [reached]
  exact ⟨ending?_of_stage task rfl, rfl, rfl, rfl, rfl, rfl⟩

/-! ### With the list -/

variable (session line)

private theorem perform_begin (needs : call.needsList = true)
    (calls : session.Calls index call deadline .queued false)
    (later : ∀ due, session.deadlineOf (.call call deadline) = some due → ¬due.seconds ≤ 0) :
    ∃ timers, session.perform line (.begin index) =
      (({ session with timers } : Session Far Held).move .ask).read line index
        (.call call deadline) session.cache.readers.length := by
  obtain ⟨timers, limited⟩ := limit_eq session index _ later
  refine ⟨timers, ?_⟩
  have found : session.tasks[index]? = _ := calls
  simp only [perform, found, beginTask, Bool.false_eq_true, if_false, limited]
  cases call with
  | list => rfl
  | supports capability => rfl
  | enroll message => rfl
  | capabilities => cases needs
  | certificate => cases needs
  | nextCertificate => cases needs
  | close => cases needs

private theorem perform_begin_kept (needs : call.needsList = true)
    (calls : session.Calls index call deadline .queued false)
    (later : ∀ due, session.deadlineOf (.call call deadline) = some due → ¬due.seconds ≤ 0)
    (kept : session.cache.stored ≠ []) :
    ∃ looked : Session Far Held,
      session.perform line (.begin index) =
        looked.listed line index (.call call deadline) (.value session.cache.stored) ∧
      looked.far = session.far ∧ looked.queue = session.queue ∧ looked.tasks = session.tasks ∧
      looked.deadline = session.deadline ∧ looked.records = session.records := by
  obtain ⟨timers, performed⟩ := perform_begin session line needs calls later
  rw [move_ask_kept { session with timers } kept,
    read_finished List.getElem?_concat_length] at performed
  exact ⟨_, performed, rfl, rfl, rfl, rfl, rfl⟩

/-! ### Without the list -/

private theorem perform_begin_missing (needs : call.needsList = true)
    (calls : session.Calls index call deadline .queued false)
    (later : ∀ due, session.deadlineOf (.call call deadline) = some due → ¬due.seconds ≤ 0)
    (missing : session.cache.stored = []) (free : session.cache.slot = none) :
    let next := session.perform line (.begin index)
    let flight := session.cache.flights.length
    next.queue = session.queue ++ [.begin session.tasks.length] ∧
      next.Calls index call deadline (.listing session.cache.readers.length) false ∧
      next.tasks[session.tasks.length]? = some { work := .flight flight } ∧
      next.watchers = session.watchers ++ [(flight, index)] ∧
      next.cache.readers[session.cache.readers.length]? = some (.waiting flight) ∧
      next.cache.flights[flight]? = some {} ∧
      next.far = session.far ∧ next.deadline = session.deadline ∧
      next.records = session.records := by
  obtain ⟨timers, performed⟩ := perform_begin session line needs calls later
  obtain ⟨inside, _⟩ := List.getElem?_eq_some_iff.mp calls
  rw [move_ask_creates { session with timers } missing free,
    read_waiting List.getElem?_concat_length] at performed
  · rw [performed]
    have own : (session.tasks ++ [{ work := .flight session.cache.flights.length }])[index]? =
        some { work := .call call deadline } := by
      rw [List.getElem?_append_left inside]
      exact calls
    refine ⟨rfl, ?_, ?_, rfl, List.getElem?_concat_length, List.getElem?_concat_length, rfl,
      rfl, rfl⟩
    · change (List.modify _ index _)[index]? = _
      rw [List.getElem?_modify_eq, own]
      rfl
    · change (List.modify _ index _)[session.tasks.length]? = _
      rw [List.getElem?_modify_ne _ _ (Nat.ne_of_lt inside)]
      exact List.getElem?_concat_length
  · rw [Cache.ending?, List.getElem?_concat_length]
    rfl

private theorem perform_begin_flight {flight place : Nat} {sent : Far} {held : Held}
    {asking : List Audit.Record}
    (found : session.tasks[place]? = some { work := .flight flight })
    (created : session.cache.flights[flight]? = some {})
    (later : ∀ due, session.deadline = some due → ¬due.seconds ≤ 0)
    (started : line.start .capabilities session.far = (sent, asking, .ok (.turn, held))) :
    ∃ launched : Session Far Held,
      launched.Sent (session.perform line (.begin place)) place sent held ∧
        (session.perform line (.begin place)).records = asking.reverse ++ session.records ∧
        (session.perform line (.begin place)).deadline = session.deadline ∧
        launched.tasks = session.tasks ∧ launched.queue = session.queue ∧
        launched.watchers = session.watchers ∧
        launched.cache = session.cache.setPhase flight .running := by
  have launches : session.cache.apply (.launch flight) =
      session.cache.setPhase flight .running := by
    simp only [Cache.apply, created]
  have moved : session.move (.launch flight) =
      { session with cache := session.cache.setPhase flight .running } := by
    rw [move_of_length, launches]
    rw [launches, Cache.setPhase, List.length_modify]
  have goes : (session.cache.setPhase flight .running).ending? flight = none := by
    rw [Cache.ending?, Cache.setPhase, List.getElem?_modify_eq, created]
    rfl
  obtain ⟨timers, timed⟩ := limit_eq
    { session with cache := session.cache.setPhase flight .running } place (.flight flight) later
  have performed : session.perform line (.begin place) =
      ({ session with timers, cache := session.cache.setPhase flight .running } :
        Session Far Held).exchange line place (.flight flight) .capabilities := by
    simp only [perform, found, beginTask, moved, goes, timed]
  let launched : Session Far Held :=
    { session with timers, cache := session.cache.setPhase flight .running }
  obtain ⟨records, limited⟩ := records_exchange_sent launched place (.flight flight) started
  rw [performed]
  exact ⟨launched, exchange_sent launched _ started found, records, limited, rfl, rfl, rfl, rfl⟩

/-- The response to the fetch is kept, and the call that waits is told. -/
theorem perform_wake_flight (index : Nat) {flight place : Nat} {held : Held} {after : Far}
    {answering : List Audit.Record} {response : Response}
    (found : session.tasks[place]? =
      some { work := .flight flight, stage := .sending held, isRoused := true })
    (runs : session.cache.flights[flight]? = some ⟨.running, false⟩)
    (watched : session.watchers = [(flight, index)])
    (finished : line.finish held session.far = (after, answering, .ok response))
    (fine : response.error = none) :
    let next := session.perform line (.wake place)
    next.far = after ∧ next.queue = session.queue ++ [.relay index] ∧
      next.cache = session.cache.land flight (.value response.data) ∧
      next.deadline = session.deadline ∧
      next.records =
        listUpdated response.data true :: (answering.reverse ++ session.records) ∧
      ∀ other, place ≠ other → next.tasks[other]? = session.tasks[other]? := by
  have performed : session.perform line (.wake place) =
      session.finish line place (.flight flight) held := by
    simp only [perform, found, goOn, Bool.or_self, Bool.false_eq_true, if_false, if_true]
  rw [performed, finish_flight place finished fine runs, announce_only index]
  · refine ⟨rfl, rfl, rfl, rfl, rfl, ?_⟩
    intro other different
    exact List.getElem?_modify_ne _ _ different
  · exact watched

private theorem perform_relay {reader : Nat}
    (calls : session.Calls index call deadline (.listing reader) false) :
    session.perform line (.relay index) =
        (session.update index fun task => { task with isRoused := true }).post (.wake index) ∧
      (session.perform line (.relay index)).Calls index call deadline (.listing reader) true := by
  have performed : session.perform line (.relay index) = _ := rouse_of_waiting _ calls rfl rfl
  rw [performed]
  exact ⟨rfl, update_tasks_self _ calls _⟩

private theorem perform_wake_listing {reader flight : Nat} {list : Octets}
    (calls : session.Calls index call deadline (.listing reader) true)
    (reads : session.cache.readers[reader]? = some (.waiting flight))
    (landed : session.cache.ending? flight = some (.value list))
    (kept : list ≠ [] → session.cache.stored = list) :
    session.perform line (.wake index) =
      ({ session with cache := session.cache.setReader reader (.finished (.value list)) } :
        Session Far Held).listed line index (.call call deadline) (.value list) := by
  have found : session.tasks[index]? = _ := calls
  have performed : session.perform line (.wake index) =
      session.read line index (.call call deadline) reader := by
    simp only [perform, found, goOn, Bool.or_self, Bool.false_eq_true, if_false, if_true]
  rw [performed, read_value reads landed kept]

/-! ### Going on with the list -/

variable {session line}

/-- A run in which the call at a place is the only one, and which has come to
where the call goes on with the list. -/
structure GoesOn (line : Line Far Held) (index : Nat) (call : Call) (deadline : Option Deadline)
    (list : Octets) (before looked last : Session Far Held) : Prop where
  comes : ∃ session entry fuel, last = await line index (fuel + 4) session ∧
    session.queue = [entry] ∧ entry ≠ .caller ∧ session.isOver index = false ∧
    ({ session with queue := [] } : Session Far Held).perform line entry =
      looked.listed line index (.call call deadline) (.value list)
  quiet : looked.queue = []
  calls : ∃ stage isRoused, looked.Calls index call deadline stage isRoused
  deadline : looked.deadline = before.deadline

private theorem await_running (fuel : Nat) {place reader flight : Nat} {held : Held} {between : Far}
    {answering : List Audit.Record} {answer : Response}
    (queue : session.queue = [.wake place])
    (calls : session.Calls index call deadline (.listing reader) false)
    (found : session.tasks[place]? =
      some { work := .flight flight, stage := .sending held, isRoused := true })
    (apart : place ≠ index) (watched : session.watchers = [(flight, index)])
    (reads : session.cache.readers[reader]? = some (.waiting flight))
    (runs : session.cache.flights[flight]? = some ⟨.running, false⟩)
    (finished : line.finish held session.far = (between, answering, .ok answer))
    (fine : answer.error = none) :
    ∃ looked, GoesOn line index call deadline answer.data session looked
        (await line index (fuel + 6) session) ∧
      looked.far = between ∧
      looked.records = listUpdated answer.data true :: (answering.reverse ++ session.records) := by
  obtain ⟨landedFar, landedQueue, landedCache, landedDeadline, landedRecords, others⟩ :=
    perform_wake_flight { session with queue := [] } line index found runs watched finished fine
  let landed := ({ session with queue := [] } : Session Far Held).perform line (.wake place)
  have landedCalls : landed.Calls index call deadline (.listing reader) false :=
    (others index apart).trans calls
  obtain ⟨told, toldCalls⟩ := perform_relay { landed with queue := [] } line landedCalls
  rw [told] at toldCalls
  have ended : landed.cache.ending? flight = some (.value answer.data) := by
    rw [landedCache, Cache.ending?, Cache.land_flights, List.getElem?_modify_eq, runs]
    rfl
  have kept : answer.data ≠ [] → landed.cache.stored = answer.data := by
    intro given
    rw [landedCache]
    exact Cache.replace_stored_of_ne _ given
  have landedReads : landed.cache.readers[reader]? = some (.waiting flight) := by
    rw [landedCache, Cache.land_readers]
    exact reads
  have ran : await line index (fuel + 6) session = await line index (fuel + 4) _ :=
    calc
      await line index (fuel + 6) session = await line index (fuel + 5) landed :=
        await_step queue (by intro same; cases same) rfl landedCalls.listing_not_isOver
      _ = await line index (fuel + 4) _ :=
        await_step landedQueue (by intro same; cases same) told toldCalls.listing_not_isOver
  refine ⟨_, ⟨⟨_, _, fuel, ran, rfl, (by intro same; cases same), toldCalls.listing_not_isOver,
    perform_wake_listing _ line toldCalls landedReads ended kept⟩, rfl, ⟨_, _, toldCalls⟩,
    landedDeadline⟩, landedFar, landedRecords⟩

private theorem await_fetch (fuel : Nat) {place reader flight : Nat} {sent between : Far}
    {held : Held} {asking answering : List Audit.Record} {answer : Response}
    (queue : session.queue = [.begin place])
    (calls : session.Calls index call deadline (.listing reader) false)
    (found : session.tasks[place]? = some { work := .flight flight }) (apart : place ≠ index)
    (watched : session.watchers = [(flight, index)])
    (reads : session.cache.readers[reader]? = some (.waiting flight))
    (created : session.cache.flights[flight]? = some {})
    (later : ∀ due, session.deadline = some due → ¬due.seconds ≤ 0)
    (started : line.start .capabilities session.far = (sent, asking, .ok (.turn, held)))
    (finished : line.finish held sent = (between, answering, .ok answer))
    (fine : answer.error = none) :
    ∃ looked, GoesOn line index call deadline answer.data session looked
        (await line index (fuel + 7) session) ∧
      looked.far = between ∧
      looked.records = listUpdated answer.data true ::
        (answering.reverse ++ (asking.reverse ++ session.records)) := by
  obtain ⟨launched, sending, records, limited, sameTasks, sameQueue, sameWatchers,
    launchedCache⟩ := perform_begin_flight { session with queue := [] } line found created later
      started
  let fetched := ({ session with queue := [] } : Session Far Held).perform line (.begin place)
  have fetchedQueue : fetched.queue = [.wake place] := by
    rw [sending.queue, sameQueue]
    rfl
  have fetchedCalls : fetched.Calls index call deadline (.listing reader) false :=
    (sending.others index apart).trans (by rw [sameTasks]; exact calls)
  have fetchedWatched : fetched.watchers = [(flight, index)] := by
    rw [sending.watchers, sameWatchers]
    exact watched
  have fetchedReads : fetched.cache.readers[reader]? = some (.waiting flight) := by
    rw [sending.cache, launchedCache]
    exact reads
  have runs : fetched.cache.flights[flight]? = some ⟨.running, false⟩ := by
    rw [sending.cache, launchedCache, Cache.setPhase, List.getElem?_modify_eq, created]
    rfl
  have fetches : fetched.tasks[place]? =
      some { work := .flight flight, stage := .sending held, isRoused := true } :=
    sending.task _ (by rw [sameTasks]; exact found)
  have finishes : line.finish held fetched.far = (between, answering, .ok answer) := by
    rw [sending.far]
    exact finished
  have stepped : await line index (fuel + 7) session = await line index (fuel + 6) fetched :=
    await_step queue (by intro same; cases same) rfl fetchedCalls.listing_not_isOver
  obtain ⟨looked, goesOn, far, told⟩ := await_running fuel fetchedQueue fetchedCalls fetches apart
    fetchedWatched fetchedReads runs finishes fine
  refine ⟨looked, ⟨?_, goesOn.quiet, goesOn.calls, goesOn.deadline.trans limited⟩, far, ?_⟩
  · rw [stepped]
    exact goesOn.comes
  · rw [told]
    exact congrArg (fun records => listUpdated answer.data true :: (answering.reverse ++ records))
      records

/-! ### The call of a list -/

/-- A call that finds a list goes on with it. -/
theorem join_kept (line : Line Far Held) (rest : session.AtRest) (needs : call.needsList = true)
    (kept : session.cache.stored ≠ [])
    (later : ∀ due, session.deadlineOf (.call call deadline) = some due → ¬due.seconds ≤ 0) :
    ∃ looked, GoesOn line session.tasks.length call deadline session.cache.stored session looked
        ((session.add (.call call deadline)).join line session.tasks.length) ∧
      looked.far = session.far ∧ looked.records = session.records := by
  obtain ⟨fuel, joined, queue, queued⟩ := join_call line rest call deadline
  let added := session.add (.call call deadline)
  obtain ⟨looked, performed, far, sameQueue, sameTasks, sameDeadline, records⟩ :=
    perform_begin_kept { added with queue := [] } line needs queued later kept
  refine ⟨looked, ⟨⟨added, _, fuel + 4, joined, queue, (by intro same; cases same), ?_, performed⟩,
    sameQueue, ⟨.queued, false, ?_⟩, sameDeadline⟩, far, records⟩
  · exact queued.not_isOver (by intro ending same; cases same)
  · rw [Calls, sameTasks]
    exact queued

/-- A call that finds no list has one fetched and goes on with it. -/
theorem join_missing (rest : session.AtRest) (needs : call.needsList = true)
    (missing : session.cache.stored = [])
    (later : ∀ due, session.deadlineOf (.call call deadline) = some due → ¬due.seconds ≤ 0)
    (laterFetch : ∀ due, session.deadline = some due → ¬due.seconds ≤ 0)
    {sent between : Far} {held : Held} {asking answering : List Audit.Record} {answer : Response}
    (started : line.start .capabilities session.far = (sent, asking, .ok (.turn, held)))
    (finished : line.finish held sent = (between, answering, .ok answer))
    (fine : answer.error = none) :
    ∃ looked, GoesOn line session.tasks.length call deadline answer.data session looked
        ((session.add (.call call deadline)).join line session.tasks.length) ∧
      looked.far = between ∧
      looked.records = listUpdated answer.data true ::
        (answering.reverse ++ (asking.reverse ++ session.records)) := by
  obtain ⟨fuel, joined, queue, queued⟩ := join_call line rest call deadline
  let added := session.add (.call call deadline)
  obtain ⟨begun, calls, found, watched, reads, created, far, sameDeadline, sameRecords⟩ :=
    perform_begin_missing { added with queue := [] } line needs queued later missing rest.slot
  let next := ({ added with queue := [] } : Session Far Held).perform line
    (.begin session.tasks.length)
  have stepped : added.join line session.tasks.length =
      await line session.tasks.length (fuel + 7) next :=
    joined.trans (await_step queue (by intro same; cases same) rfl calls.listing_not_isOver)
  have apart : added.tasks.length ≠ session.tasks.length := by
    have size : added.tasks.length = session.tasks.length + 1 := List.length_append
    omega
  have onlyOne : next.watchers = [(session.cache.flights.length, session.tasks.length)] :=
    watched.trans (congrArg (· ++ _) rest.watchers)
  have starts : line.start .capabilities next.far = (sent, asking, .ok (.turn, held)) := by
    rw [far]
    exact started
  have laterNext : ∀ due, next.deadline = some due → ¬due.seconds ≤ 0 := by
    rw [sameDeadline]
    exact laterFetch
  obtain ⟨looked, goesOn, comesFar, told⟩ := await_fetch fuel begun calls found apart
    onlyOne reads created laterNext starts finished fine
  refine ⟨looked, ⟨?_, goesOn.quiet, goesOn.calls, goesOn.deadline.trans sameDeadline⟩, comesFar,
    ?_⟩
  · rw [stepped]
    exact goesOn.comes
  · rw [told]
    exact congrArg (fun records => listUpdated answer.data true ::
      (answering.reverse ++ (asking.reverse ++ records))) sameRecords

end Session

end Scep
