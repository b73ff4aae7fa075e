import Scep.Proofs.Client.Run

/-!
Sessions on a line of which more is known.

A line may keep a record of what passes over it.  What a session does must not
depend on the record: forgetting it turns the session on the one line, step by
step, into the session on the other.
-/

namespace Scep.Session

variable {Far Held Seen Noted : Type}

/-- A way to forget what the fuller of two lines knows and the other one does
not, such that all else that the lines do is the same. -/
structure Erasure (fuller : Line Seen Noted) (line : Line Far Held) where
  far : Seen → Far
  held : Noted → Held
  starts (ask : Ask) (seen : Seen) : line.start ask (far seen) =
    (far (fuller.start ask seen).1, (fuller.start ask seen).2.1,
      (fuller.start ask seen).2.2.map fun started => (started.1, held started.2))
  finishes (noted : Noted) (seen : Seen) : line.finish (held noted) (far seen) =
    (far (fuller.finish noted seen).1, (fuller.finish noted seen).2)
  tells : line.tell = fuller.tell

namespace Erasure

variable {fuller : Line Seen Noted} {line : Line Far Held} (erasure : Erasure fuller line)

def stage : Stage Noted → Stage Held
  | .queued => .queued
  | .listing reader => .listing reader
  | .sending noted => .sending (erasure.held noted)
  | .closing closer => .closing closer
  | .ended ending => .ended ending

def task (task : Task Noted) : Task Held :=
  { work := task.work
    stage := erasure.stage task.stage
    isRoused := task.isRoused
    isCancelled := task.isCancelled
    hasExpired := task.hasExpired }

/-- A session without what only the fuller line knows. -/
def session (session : Session Seen Noted) : Session Far Held :=
  { session with far := erasure.far session.far, tasks := session.tasks.map erasure.task }

/-! ### Small changes -/

private theorem task_isWaiting (task : Task Noted) : (erasure.task task).isWaiting =
    task.isWaiting := by
  obtain ⟨work, stage, isRoused, isCancelled, hasExpired⟩ := task
  cases stage <;> rfl

private theorem task_ending? (task : Task Noted) : (erasure.task task).ending? = task.ending? := by
  obtain ⟨work, stage, isRoused, isCancelled, hasExpired⟩ := task
  cases stage <;> rfl

variable (seen : Session Seen Noted)

private theorem getElem?_tasks (index : Nat) :
    (erasure.session seen).tasks[index]? = seen.tasks[index]?.map erasure.task :=
  List.getElem?_map

private theorem update (index : Nat) {change : Task Noted → Task Noted}
    {same : Task Held → Task Held}
    (agree : ∀ task, erasure.task (change task) = same (erasure.task task)) :
    erasure.session (seen.update index change) = (erasure.session seen).update index same := by
  simp only [Erasure.session, Session.update, map_modify agree]

@[simp] theorem post (entry : Entry) :
    erasure.session (seen.post entry) = (erasure.session seen).post entry := rfl

@[simp] theorem record (records : List Audit.Record) :
    erasure.session (seen.record records) = (erasure.session seen).record records := rfl

@[simp] theorem pause (index : Nat) (stage : Stage Noted) :
    erasure.session (seen.pause index stage) =
      (erasure.session seen).pause index (erasure.stage stage) :=
  erasure.update seen index fun _ => rfl

@[simp] theorem add (work : Work) :
    erasure.session (seen.add work) = (erasure.session seen).add work := by
  simp only [Erasure.session, Session.add, List.map_append, List.map_cons, List.map_nil,
    List.length_map]
  rfl

@[simp] theorem move (move : Cache.Move) :
    erasure.session (seen.move move) = (erasure.session seen).move move := by
  unfold Session.move
  dsimp only
  split
  · rename_i more
    rw [add]
    exact (if_pos more).symm
  · rename_i same
    exact (if_neg same).symm

@[simp] theorem rouse (index : Nat) :
    erasure.session (seen.rouse index) = (erasure.session seen).rouse index := by
  unfold Session.rouse
  rw [erasure.getElem?_tasks seen index]
  cases seen.tasks[index]? with
  | none => rfl
  | some task =>
      dsimp only [Option.map_some]
      rw [erasure.task_isWaiting task]
      change _ = if task.isWaiting && !task.isRoused then _ else _
      split
      · rw [post]
        exact congrArg (fun next => Session.post next (.wake index))
          (erasure.update seen index fun _ => rfl)
      · rfl

@[simp] theorem cancel (index : Nat) :
    erasure.session (seen.cancel index) = (erasure.session seen).cancel index := by
  unfold Session.cancel
  rw [rouse]
  exact congrArg (fun next => Session.rouse next index) (erasure.update seen index fun _ => rfl)

@[simp] theorem announce (flight : Nat) :
    erasure.session (seen.announce flight) = (erasure.session seen).announce flight := rfl

@[simp] theorem watch (index flight : Nat) :
    erasure.session (seen.watch index flight) = (erasure.session seen).watch index flight := by
  have same : (erasure.session seen).cache.ending? flight = seen.cache.ending? flight := rfl
  unfold Session.watch
  rw [same]
  cases seen.cache.ending? flight <;> rfl

/-! ### Ends of tasks -/

@[simp] theorem conclude (index : Nat) (work : Work) (ending : Ending Result) :
    erasure.session (seen.conclude index work ending) =
      (erasure.session seen).conclude index work ending := by
  cases work with
  | call call deadline => exact erasure.pause seen index (.ended ending)
  | flight number =>
      simp only [Session.conclude, announce, move, pause]
      rfl

@[simp] theorem fail (index : Nat) (work : Work) (raised : Raised) :
    erasure.session (seen.fail fuller index work raised) =
      (erasure.session seen).fail line index work raised := by
  unfold Session.fail
  rw [conclude, erasure.tells]
  rfl

/-! ### Exchanges -/

@[simp] theorem deliver (index : Nat) (work : Work) (response : Response) :
    erasure.session (seen.deliver index work response) =
      (erasure.session seen).deliver index work response := by
  unfold Session.deliver
  cases response.error with
  | some fault => exact erasure.conclude seen index work _
  | none =>
      dsimp only
      split <;> simp only [conclude, record, move]

@[simp] theorem finish (index : Nat) (work : Work) (noted : Noted) :
    erasure.session (seen.finish fuller index work noted) =
      (erasure.session seen).finish line index work (erasure.held noted) := by
  have same : (erasure.session seen).far = erasure.far seen.far := rfl
  have finished := erasure.finishes noted seen.far
  rcases known : fuller.finish noted seen.far with ⟨far, records, outcome⟩
  rw [known] at finished
  cases outcome with
  | error raised =>
      simp only [Session.finish, known, same, finished]
      exact erasure.fail _ index work raised
  | ok response =>
      simp only [Session.finish, known, same, finished]
      exact erasure.deliver _ index work response

@[simp] theorem exchange (index : Nat) (work : Work) (ask : Ask) :
    erasure.session (seen.exchange fuller index work ask) =
      (erasure.session seen).exchange line index work ask := by
  have same : (erasure.session seen).far = erasure.far seen.far := rfl
  have started := erasure.starts ask seen.far
  rcases known : fuller.start ask seen.far with ⟨far, records, outcome⟩
  rw [known] at started
  cases outcome with
  | error raised =>
      simp only [Session.exchange, known, same, started, Except.map]
      exact erasure.fail _ index work raised
  | ok outcome =>
      obtain ⟨wait, noted⟩ := outcome
      cases wait with
      | ready =>
          simp only [Session.exchange, known, same, started, Except.map]
          exact erasure.finish _ index work noted
      | turn =>
          simp only [Session.exchange, known, same, started, Except.map, rouse, pause]
          rfl
      | forever =>
          simp only [Session.exchange, known, same, started, Except.map, pause]
          rfl
      | gate name =>
          simp only [Session.exchange, known, same, started, Except.map]
          rw [apply_ite erasure.session, finish]
          refine ite_congr rfl (fun _ => rfl) fun _ => ?_
          exact congrArg
            (fun next : Session Far Held => { next with gated := next.gated ++ [(name, index)] })
            (erasure.pause ({ seen with far, asked := (index, ask) :: seen.asked }.record records)
              index (.sending noted))

/-! ### The capability list -/

@[simp] theorem listed (index : Nat) (work : Work) (ending : Ending Octets) :
    erasure.session (seen.listed fuller index work ending) =
      (erasure.session seen).listed line index work ending := by
  cases ending with
  | cancelled => exact erasure.conclude seen index work .cancelled
  | failed raised => exact erasure.fail seen index work raised
  | value list =>
      simp only [Session.listed]
      split <;> simp only [conclude, exchange, record]

@[simp] theorem read (index : Nat) (work : Work) (reader : Nat) :
    erasure.session (seen.read fuller index work reader) =
      (erasure.session seen).read line index work reader := by
  have moved := erasure.move seen (.resume reader)
  have sameCache : (erasure.session (seen.move (.resume reader))).cache =
      (seen.move (.resume reader)).cache := rfl
  simp only [Session.read, ← moved, sameCache]
  split
  · exact erasure.listed _ index work _
  · rw [watch, pause]
    rfl
  · rfl

@[simp] theorem shut (index : Nat) (work : Work) (closer : Nat) :
    erasure.session (seen.shut index work closer) =
      (erasure.session seen).shut index work closer := by
  simp only [Session.shut, conclude, move]

private theorem findIdx?_tasks (flight : Nat) :
    (erasure.session seen).tasks.findIdx? (isFlight flight) =
      seen.tasks.findIdx? (isFlight flight) :=
  List.findIdx?_map

@[simp] theorem shutDown (index : Nat) (work : Work) :
    erasure.session (seen.shutDown index work) = (erasure.session seen).shutDown index work := by
  have moved := erasure.move seen .close
  have sameCloser : (erasure.session seen).cache.closers = seen.cache.closers := rfl
  have sameCache : (erasure.session (seen.move .close)).cache = (seen.move .close).cache := rfl
  simp only [Session.shutDown, ← moved, sameCloser, sameCache,
    erasure.findIdx?_tasks (seen.move .close)]
  split
  · exact erasure.conclude _ index work _
  · rw [watch, pause]
    split
    · rw [cancel]
      rfl
    · rfl

/-! ### Entries of the queue -/

@[simp] theorem limit (index : Nat) (work : Work) :
    erasure.session (seen.limit index work) = (erasure.session seen).limit index work := by
  have sameDeadline : (erasure.session seen).deadlineOf work = seen.deadlineOf work := rfl
  unfold Session.limit
  rw [sameDeadline]
  split
  · split <;> rfl
  · rfl

@[simp] theorem beginTask (index : Nat) (task : Task Noted) :
    erasure.session (seen.beginTask fuller index task) =
      (erasure.session seen).beginTask line index (erasure.task task) := by
  obtain ⟨work, stage, isRoused, isCancelled, hasExpired⟩ := task
  cases work with
  | flight number =>
      have launched := erasure.move seen (.launch number)
      have sameCache : (erasure.session (seen.move (.launch number))).cache =
          (seen.move (.launch number)).cache := rfl
      simp only [Session.beginTask, Erasure.task, ← launched, sameCache]
      split
      · rw [announce, pause]
        rfl
      · rw [exchange, limit]
  | call call deadline =>
      simp only [Session.beginTask, Erasure.task]
      rw [apply_ite erasure.session, conclude]
      refine ite_congr rfl (fun _ => rfl) fun _ => ?_
      have limited := erasure.limit seen index (.call call deadline)
      have sameReaders :
          (erasure.session (seen.limit index (.call call deadline))).cache.readers =
            (seen.limit index (.call call deadline)).cache.readers := rfl
      rw [← limited, sameReaders]
      cases call <;> simp only [read, move, exchange, shutDown]

@[simp] theorem unwind (index : Nat) (task : Task Noted) :
    erasure.session (seen.unwind fuller index task) =
      (erasure.session seen).unwind line index (erasure.task task) := by
  obtain ⟨work, stage, isRoused, isCancelled, hasExpired⟩ := task
  cases isCancelled with
  | true =>
      simp only [Session.unwind, Erasure.task, if_true, conclude]
      cases stage <;> simp only [Erasure.stage, move]
  | false =>
      simp only [Session.unwind, Erasure.task, Bool.false_eq_true, if_false, fail]
      cases stage <;> simp only [Erasure.stage, move]

@[simp] theorem goOn (index : Nat) (task : Task Noted) :
    erasure.session (seen.goOn fuller index task) =
      (erasure.session seen).goOn line index (erasure.task task) := by
  unfold Session.goOn
  change _ = if task.isCancelled || task.hasExpired then _ else _
  split
  · exact erasure.unwind seen index task
  · obtain ⟨work, stage, isRoused, isCancelled, hasExpired⟩ := task
    cases stage with
    | queued => rfl
    | listing reader => exact erasure.read seen index work reader
    | sending noted => exact erasure.finish seen index work noted
    | closing closer => exact erasure.shut seen index work closer
    | ended ending => rfl

private theorem perform (entry : Entry) :
    erasure.session (seen.perform fuller entry) =
      (erasure.session seen).perform line entry := by
  cases entry with
  | begin index =>
      simp only [Session.perform, erasure.getElem?_tasks seen index]
      cases seen.tasks[index]? with
      | none => rfl
      | some task =>
          dsimp only [Option.map_some]
          have begun := erasure.beginTask seen index task
          obtain ⟨work, stage, isRoused, isCancelled, hasExpired⟩ := task
          cases stage with
          | queued => exact begun
          | listing reader => rfl
          | sending noted => rfl
          | closing closer => rfl
          | ended ending => rfl
  | relay index => exact erasure.rouse seen index
  | wake index =>
      simp only [Session.perform, erasure.getElem?_tasks seen index]
      cases seen.tasks[index]? with
      | none => rfl
      | some task =>
          dsimp only [Option.map_some]
          rw [apply_ite erasure.session, goOn]
          rfl
  | expire index =>
      simp only [Session.perform, erasure.getElem?_tasks seen index]
      cases seen.tasks[index]? with
      | none => rfl
      | some task =>
          dsimp only [Option.map_some]
          rw [apply_ite erasure.session, rouse, erasure.task_isWaiting task]
          refine ite_congr rfl (fun _ => ?_) fun _ => rfl
          exact congrArg (fun next => Session.rouse next index)
            (erasure.update seen index fun _ => rfl)
  | report => rfl
  | caller => rfl

/-! ### Runs -/

private theorem isOver (index : Nat) : (erasure.session seen).isOver index = seen.isOver index := by
  unfold Session.isOver Session.ending?
  rw [erasure.getElem?_tasks seen index]
  cases seen.tasks[index]? with
  | none => rfl
  | some task => exact congrArg Option.isSome (erasure.task_ending? task)

private theorem advance : erasure.session seen.advance = (erasure.session seen).advance := by
  have timers : (erasure.session seen).timers.filter
      (fun timer => !(erasure.session seen).isOver timer.2) =
        seen.timers.filter fun timer => !seen.isOver timer.2 := by
    simp only [erasure.isOver seen]
    rfl
  unfold Session.advance
  rw [timers]
  cases seen.timers.filter fun timer => !seen.isOver timer.2 <;> rfl

private theorem foldl_rouse (entries : List (String × Nat)) :
    erasure.session (entries.foldl (fun session entry => session.rouse entry.2) seen) =
      entries.foldl (fun session entry => session.rouse entry.2) (erasure.session seen) := by
  induction entries generalizing seen with
  | nil => rfl
  | cons first rest ih => rw [List.foldl_cons, ih, rouse, List.foldl_cons]

private theorem release (gate : String) :
    erasure.session (seen.release gate) = (erasure.session seen).release gate :=
  erasure.foldl_rouse _ _

private theorem happen (happening : Happening) :
    erasure.session (seen.happen fuller happening) =
      (erasure.session seen).happen line happening := by
  cases happening with
  | called call deadline => exact erasure.add seen _
  | cancelled index => exact erasure.cancel seen index
  | performed place =>
      have same : (erasure.session seen).queue[place]? = seen.queue[place]? := rfl
      simp only [Session.happen]
      rw [same]
      cases seen.queue[place]? with
      | none => rfl
      | some entry => exact erasure.perform _ entry
  | passed => exact erasure.advance seen
  | released gate => exact erasure.release seen gate
  | noted => rfl

theorem run (happenings : List Happening) :
    erasure.session (seen.run fuller happenings) =
      (erasure.session seen).run line happenings := by
  induction happenings generalizing seen with
  | nil => rfl
  | cons first rest ih => rw [run_cons, ih, happen, run_cons]

end Erasure

end Scep.Session
