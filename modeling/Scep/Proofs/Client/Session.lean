import Scep.Client.Session
import Scep.Proofs.Cache.Basic

/-!
What the small changes of a session do to it.

A task is looked up by its place, so each change has a lemma for the task that
it is about and says of all other fields that they stay.
-/

namespace Scep.Session

variable {Far Held : Type} {session : Session Far Held} {index : Nat} {task : Task Held}

/-! ### Tasks -/

theorem update_tasks_self (session : Session Far Held) {index : Nat} {task : Task Held}
    (found : session.tasks[index]? = some task)
    (change : Task Held → Task Held) :
    (session.update index change).tasks[index]? = some (change task) := by
  rw [update, List.getElem?_modify_eq, found]
  rfl

private theorem update_tasks_of_ne {other : Nat} (different : index ≠ other)
    (change : Task Held → Task Held) :
    (session.update index change).tasks[other]? = session.tasks[other]? := by
  rw [update, List.getElem?_modify_ne _ _ different]

theorem ending?_of_stage (found : session.tasks[index]? = some task) {ending : Ending Result}
    (ended : task.stage = .ended ending) : session.ending? index = some ending := by
  simp only [Session.ending?, found, Option.bind_some, Task.ending?, ended]

theorem isOver_of_stage (found : session.tasks[index]? = some task) {ending : Ending Result}
    (ended : task.stage = .ended ending) : session.isOver index = true := by
  rw [isOver, ending?_of_stage found ended, Option.isSome_some]

theorem not_isOver_of_stage (found : session.tasks[index]? = some task)
    (going : ∀ ending, task.stage ≠ .ended ending) : session.isOver index = false := by
  rw [isOver, Session.ending?, found, Option.bind_some, Task.ending?]
  cases stage : task.stage with
  | ended ending => exact absurd stage (going ending)
  | queued => rfl
  | listing reader => rfl
  | sending held => rfl
  | closing closer => rfl

theorem rouse_of_waiting (task : Task Held) (found : session.tasks[index]? = some task)
    (waits : task.isWaiting = true) (sleeps : task.isRoused = false) :
    session.rouse index =
      (session.update index fun task => { task with isRoused := true }).post (.wake index) := by
  simp only [rouse, found, waits, sleeps, Bool.not_false, Bool.and_self, if_true]

theorem announce_only (index : Nat) {flight : Nat}
    (watched : session.watchers = [(flight, index)]) :
    session.announce flight =
      { session with queue := session.queue ++ [.relay index], watchers := [] } := by
  have told : [(flight, index)].partition (fun watcher => watcher.1 == flight) =
      ([(flight, index)], []) := by
    simp only [List.partition_eq_filter_filter, List.filter_cons, List.filter_nil, beq_self_eq_true,
      Bool.not_true, Function.comp_apply, if_true, Bool.false_eq_true, if_false]
  simp only [announce, watched, told, List.map_cons, List.map_nil]

/-! ### Moves of the cache -/

theorem move_of_length {move : Cache.Move}
    (same : (session.cache.apply move).flights.length = session.cache.flights.length) :
    session.move move = { session with cache := session.cache.apply move } := by
  simp only [Session.move, same, Nat.lt_irrefl, if_false]

private theorem move_of_creates {move : Cache.Move}
    (more : session.cache.flights.length < (session.cache.apply move).flights.length) :
    session.move move =
      ({ session with cache := session.cache.apply move } : Session Far Held).add
        (.flight session.cache.flights.length) := by
  simp only [Session.move, if_pos more]

theorem move_ask_kept (session : Session Far Held) (kept : session.cache.stored ≠ []) :
    session.move .ask =
      { session with
        cache := { session.cache with
          readers := session.cache.readers ++ [.finished (.value session.cache.stored)] } } := by
  have asked := Cache.apply_ask session.cache
  rw [Cache.look_kept kept] at asked
  rw [move_of_length (by rw [asked]), asked]

theorem move_ask_creates (session : Session Far Held) (missing : session.cache.stored = [])
    (free : session.cache.slot = none) :
    session.move .ask =
      { session with
        cache := { session.cache with
          slot := some session.cache.flights.length
          flights := session.cache.flights ++ [{}]
          readers := session.cache.readers ++ [.waiting session.cache.flights.length] }
        tasks := session.tasks ++ [{ work := .flight session.cache.flights.length }]
        queue := session.queue ++ [.begin session.tasks.length] } := by
  have asked := Cache.apply_ask session.cache
  rw [Cache.look_creates missing free] at asked
  rw [move_of_creates, asked]
  · rfl
  · rw [asked, List.length_append]
    exact Nat.lt_succ_self _

/-! ### Deadlines -/

theorem limit_eq (session : Session Far Held) (index : Nat) (work : Work)
    (later : ∀ deadline, session.deadlineOf work = some deadline → ¬deadline.seconds ≤ 0) :
    ∃ timers, session.limit index work = { session with timers } := by
  cases operation : work.operation? with
  | none => exact ⟨session.timers, by simp only [limit, operation]⟩
  | some asked =>
      cases given : session.deadlineOf work with
      | none => exact ⟨session.timers, by simp only [limit, operation, given]⟩
      | some deadline =>
          refine ⟨session.timers ++ [(session.now + deadline.seconds, index)], ?_⟩
          simp only [limit, operation, given, if_neg (later deadline given)]

/-! ### Exchanges -/

variable {line : Line Far Held} {work : Work} {ask : Ask} {far : Far}
  {records : List Audit.Record} {held : Held}

/-- What becomes of a session when a task has sent a request and waits for its
turn. -/
structure Sent (session next : Session Far Held) (index : Nat) (far : Far) (held : Held) :
    Prop where
  far : next.far = far
  queue : next.queue = session.queue ++ [.wake index]
  task : ∀ task, session.tasks[index]? = some task →
    next.tasks[index]? = some { task with stage := .sending held, isRoused := true }
  others : ∀ other, index ≠ other → next.tasks[other]? = session.tasks[other]?
  cache : next.cache = session.cache
  watchers : next.watchers = session.watchers

theorem exchange_sent (session : Session Far Held) (work : Work)
    (started : line.start ask session.far = (far, records, .ok (.turn, held)))
    (found : session.tasks[index]? = some task) :
    session.Sent (session.exchange line index work ask) index far held := by
  simp only [exchange, started]
  rw [rouse_of_waiting { task with stage := .sending held, isRoused := false }]
  · refine ⟨rfl, rfl, ?_, ?_, rfl, rfl⟩
    · intro task present
      exact update_tasks_self _ (update_tasks_self _ present _) _
    · intro other different
      exact (update_tasks_of_ne different _).trans (update_tasks_of_ne different _)
  · exact update_tasks_self _ found _
  · rfl
  · rfl

theorem records_exchange_sent (session : Session Far Held) (index : Nat) (work : Work)
    (started : line.start ask session.far = (far, records, .ok (.turn, held))) :
    (session.exchange line index work ask).records = records.reverse ++ session.records ∧
      (session.exchange line index work ask).deadline = session.deadline := by
  simp only [exchange, started, rouse]
  split
  · split
    · exact ⟨rfl, rfl⟩
    · exact ⟨rfl, rfl⟩
  · exact ⟨rfl, rfl⟩

theorem exchange_refused (session : Session Far Held) (index : Nat) (call : Call)
    {deadline : Option Deadline} {operation : Operation}
    (operated : (Work.call call deadline).operation? = some operation) {raised : Raised}
    (refused : line.start ask session.far = (far, records, .error raised)) :
    ∃ asked records, session.exchange line index (.call call deadline) ask =
      { session with
        far
        asked
        records
        tasks := session.tasks.modify index fun task =>
          { task with
            stage := .ended (.failed
              (line.tell operation (session.deadlineOf (.call call deadline)) raised))
            isRoused := false } } := by
  simp only [exchange, refused, fail, operated, conclude]
  exact ⟨_, _, rfl⟩

def listUpdated (list : Octets) (isImplicit : Bool) : Audit.Record :=
  { event := .capabilitiesUpdated list isImplicit }

def given (response : Response) : Call → Result
  | .certificate => .certificate response.data response.certificates
  | _ => .octets response.data

theorem deliver_call (session : Session Far Held) (index : Nat) (call : Call)
    (deadline : Option Deadline) {response : Response} (fine : response.error = none) :
    session.deliver index (.call call deadline) response =
      { session with
        cache :=
          if call = .capabilities then session.cache.replace response.data else session.cache
        records :=
          (if call = .capabilities then [listUpdated response.data false] else []) ++
            session.records
        tasks := session.tasks.modify index fun task =>
          { task with stage := .ended (.value (given response call)), isRoused := false } } := by
  cases call with
  | capabilities =>
      have moved : session.move (.replace response.data) =
          { session with cache := session.cache.replace response.data } :=
        move_of_length (congrArg List.length (session.cache.replace_flights _))
      simp only [deliver, fine, moved]
      rfl
  | certificate =>
      simp only [deliver, fine]
      rfl
  | list =>
      simp only [deliver, fine]
      rfl
  | supports capability =>
      simp only [deliver, fine]
      rfl
  | enroll message =>
      simp only [deliver, fine]
      rfl
  | nextCertificate =>
      simp only [deliver, fine]
      rfl
  | close =>
      simp only [deliver, fine]
      rfl

theorem finish_flight (index : Nat) {flight : Nat} {response : Response} {stopping : Bool}
    (finished : line.finish held session.far = (far, records, .ok response))
    (fine : response.error = none)
    (runs : session.cache.flights[flight]? = some ⟨.running, stopping⟩) :
    session.finish line index (.flight flight) held =
      ({ session with
        far
        records := listUpdated response.data true :: (records.reverse ++ session.records)
        cache := session.cache.land flight (.value response.data)
        tasks := session.tasks.modify index fun task =>
          { task with stage := .ended (.value (.octets response.data)), isRoused := false } } :
        Session Far Held).announce flight := by
  have lands : session.cache.apply (.land flight (.value response.data)) =
      session.cache.land flight (.value response.data) := by
    simp only [Cache.apply, runs]
  have moved : ∀ next : Session Far Held, next.cache = session.cache →
      next.move (.land flight (.value response.data)) =
        { next with cache := session.cache.land flight (.value response.data) } := by
    intro next sameCache
    rw [move_of_length]
    · rw [sameCache, lands]
    · rw [sameCache, lands, Cache.land_flights, List.length_modify]
  simp only [finish, finished, deliver, fine, conclude]
  rw [moved]
  · rfl
  · rfl

/-! ### Reading the list -/

theorem methodFor_eq_post_iff {list : Octets} :
    methodFor list = .post ↔
      Cache.advertises list "POSTPKIOperation" = true ∨
        Cache.advertises list "SCEPStandard" = true := by
  have posting : postingCapabilities.any (Cache.advertises list) =
      (Cache.advertises list "POSTPKIOperation" || Cache.advertises list "SCEPStandard") := by
    simp only [postingCapabilities, List.any_cons, List.any_nil, Bool.or_false]
  rw [methodFor, posting, ← Bool.or_eq_true]
  cases Cache.advertises list "POSTPKIOperation" || Cache.advertises list "SCEPStandard" with
  | true => exact ⟨fun _ => rfl, fun _ => rfl⟩
  | false => exact ⟨fun same => Method.noConfusion same, fun same => Bool.noConfusion same⟩

theorem read_finished {reader : Nat} {ending : Ending Octets}
    (finished : session.cache.readers[reader]? = some (.finished ending)) :
    session.read line index work reader = session.listed line index work ending := by
  have stays := Cache.apply_resume_of_finished finished
  rw [read, move_of_length (by rw [stays]), stays]
  simp only [finished]

theorem read_value {reader flight : Nat} {list : Octets}
    (waits : session.cache.readers[reader]? = some (.waiting flight))
    (landed : session.cache.ending? flight = some (.value list))
    (kept : list ≠ [] → session.cache.stored = list) :
    session.read line index work reader =
      ({ session with cache := session.cache.setReader reader (.finished (.value list)) } :
        Session Far Held).listed line index work (.value list) := by
  have settled := Cache.apply_resume_of_value waits landed kept
  have placed : (session.cache.setReader reader (.finished (.value list))).readers[reader]? =
      some (.finished (.value list)) := by
    obtain ⟨inside, _⟩ := List.getElem?_eq_some_iff.mp waits
    exact List.getElem?_set_self inside
  rw [read, move_of_length (by rw [settled]; rfl), settled]
  simp only [placed]

theorem read_waiting {reader flight : Nat}
    (waits : session.cache.readers[reader]? = some (.waiting flight))
    (goes : session.cache.ending? flight = none) :
    session.read line index work reader =
      { session with
        tasks := session.tasks.modify index fun task =>
          { task with stage := .listing reader, isRoused := false }
        watchers := session.watchers ++ [(flight, index)] } := by
  have stays := Cache.apply_resume_of_waiting waits goes
  rw [read, move_of_length (by rw [stays]), stays]
  simp only [waits, watch, pause, update, goes]

/-! ### Running -/

variable {awaited fuel : Nat} {entry : Entry} {rest : List Entry} {next : Session Far Held}

private theorem await_entry (queue : session.queue = entry :: rest) (inside : entry ≠ .caller)
    (performed : ({ session with queue := rest } : Session Far Held).perform line entry = next) :
    await line awaited (fuel + 1) session =
      await line awaited fuel
        (if !session.isOver awaited && next.isOver awaited then next.post .report else next) := by
  rw [← performed]
  cases entry with
  | caller => exact absurd rfl inside
  | begin task => simp only [await, queue]
  | relay task => simp only [await, queue]
  | wake task => simp only [await, queue]
  | expire task => simp only [await, queue]
  | report => simp only [await, queue]

theorem await_step (queue : session.queue = entry :: rest) (inside : entry ≠ .caller)
    (performed : ({ session with queue := rest } : Session Far Held).perform line entry = next)
    (going : next.isOver awaited = false) :
    await line awaited (fuel + 1) session = await line awaited fuel next := by
  rw [await_entry queue inside performed, going, Bool.and_false, if_neg Bool.false_ne_true]

private theorem await_over (queue : session.queue = entry :: rest) (inside : entry ≠ .caller)
    (performed : ({ session with queue := rest } : Session Far Held).perform line entry = next)
    (finished : session.isOver awaited = true) :
    await line awaited (fuel + 1) session = await line awaited fuel next := by
  rw [await_entry queue inside performed, finished, Bool.not_true, Bool.false_and,
    if_neg Bool.false_ne_true]

theorem await_last (queue : session.queue = entry :: rest) (inside : entry ≠ .caller)
    (performed : ({ session with queue := rest } : Session Far Held).perform line entry = next)
    (going : session.isOver awaited = false) (ended : next.isOver awaited = true)
    (quiet : next.queue = []) : await line awaited (fuel + 3) session = next := by
  have reported : (next.post .report).queue = [.report] := by
    rw [post, quiet]
    rfl
  have told : ({ next.post .report with queue := [] } : Session Far Held).perform line .report =
      { next with queue := [.caller] } := rfl
  have heard : await line awaited (fuel + 1) { next with queue := [.caller] } = next := by
    simp only [await]
    rw [← quiet]
  rw [await_entry queue inside performed, going, ended, Bool.not_false, Bool.and_true, if_pos rfl,
    await_over reported (by intro same; cases same) told ended, heard]

end Scep.Session
