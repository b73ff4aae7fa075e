import Scep.Proofs.Cache.Running
import Scep.Proofs.Client.Run

/-!
The core of a session: the other end, the cache, and where every task stands.

Most of what a session does is about when tasks go on, and the core does not
change by it.  Each function of a session that matters to the core does to it
what the function of the same name here says.
-/

namespace Scep.Session

variable {Far Held : Type}

/-! ### The core of a session -/

/-- The other end, the cache, and what every task is for and where it stands. -/
structure Core (Far Held : Type) where
  far : Far
  cache : Cache
  jobs : List (Work × Stage Held)

def core (session : Session Far Held) : Core Far Held :=
  ⟨session.far, session.cache, session.tasks.map fun task => (task.work, task.stage)⟩

namespace Core

def pause (core : Core Far Held) (index : Nat) (stage : Stage Held) : Core Far Held :=
  { core with jobs := core.jobs.modify index fun job => (job.1, stage) }

def add (core : Core Far Held) (work : Work) : Core Far Held :=
  { core with jobs := core.jobs ++ [(work, .queued)] }

def move (core : Core Far Held) (move : Cache.Move) : Core Far Held :=
  let next := { core with cache := core.cache.apply move }
  if core.cache.flights.length < next.cache.flights.length then
    next.add (.flight core.cache.flights.length)
  else next

@[simp] theorem far_move (core : Core Far Held) (move : Cache.Move) :
    (core.move move).far = core.far := by
  unfold Core.move
  dsimp only
  split <;> rfl

@[simp] theorem cache_move (core : Core Far Held) (move : Cache.Move) :
    (core.move move).cache = core.cache.apply move := by
  unfold Core.move
  dsimp only
  split <;> rfl

def work? (core : Core Far Held) (index : Nat) : Option Work := core.jobs[index]?.map Prod.fst

variable {core : Core Far Held} {index : Nat} {work : Work} {stage : Stage Held}

theorem work?_of_job (placed : core.jobs[index]? = some (work, stage)) :
    core.work? index = some work := by
  rw [work?, placed, Option.map_some]

theorem job_of_pause {other : Nat} {shown : Stage Held}
    (placed : (core.pause index stage).jobs[other]? = some (work, shown)) :
    ∃ before, core.jobs[other]? = some (work, before) ∧
      (index = other ∧ shown = stage ∨ index ≠ other ∧ shown = before) := by
  simp only [pause, List.getElem?_modify, Option.map_eq_map, Option.map_eq_some_iff] at placed
  obtain ⟨⟨job, before⟩, found, same⟩ := placed
  by_cases here : index = other
  · rw [if_pos here] at same
    cases same
    exact ⟨before, found, Or.inl ⟨here, rfl⟩⟩
  · rw [if_neg here] at same
    cases same
    exact ⟨shown, found, Or.inr ⟨here, rfl⟩⟩

theorem job_move (move : Cache.Move) {job : Work × Stage Held}
    (placed : core.jobs[index]? = some job) : (core.move move).jobs[index]? = some job := by
  unfold Core.move
  dsimp only
  split
  · exact (List.getElem?_append_left (List.getElem?_eq_some_iff.mp placed).1).trans placed
  · exact placed

theorem work?_move (move : Cache.Move) (does : core.work? index = some work) :
    (core.move move).work? index = some work := by
  obtain ⟨job, placed, same⟩ := Option.map_eq_some_iff.mp does
  rw [work?, job_move move placed, Option.map_some, same]

theorem job_of_add {work : Work} {job : Work × Stage Held}
    (placed : (core.add work).jobs[index]? = some job) :
    core.jobs[index]? = some job ∨ index = core.jobs.length ∧ job = (work, .queued) := by
  rcases Nat.lt_or_ge index core.jobs.length with inside | outside
  · rw [add, List.getElem?_append_left inside] at placed
    exact Or.inl placed
  · rw [add, List.getElem?_append_right outside] at placed
    obtain ⟨position, same⟩ := List.getElem?_eq_some_iff.mp placed
    have last : index - core.jobs.length = 0 := by
      rw [List.length_singleton] at position
      omega
    rw [List.getElem_singleton] at same
    exact Or.inr ⟨by omega, same.symm⟩

end Core

/-! ### Ends of tasks -/

def Work.due (deadline : Option Deadline) : Work → Option Deadline
  | .call _ (some own) => some own
  | _ => deadline

def Work.told (line : Line Far Held) (deadline : Option Deadline) (work : Work)
    (raised : Raised) : Raised :=
  match work.operation? with
  | some operation => line.tell operation (work.due deadline) raised
  | none => raised

def landing : Ending Result → Ending Octets
  | .value (.octets data) => .value data
  | .value _ => .value []
  | .failed raised => .failed raised
  | .cancelled => .cancelled

namespace Core

variable (core : Core Far Held) (index : Nat) (work : Work)

def conclude (ending : Ending Result) : Core Far Held :=
  match work with
  | .call .. => core.pause index (.ended ending)
  | .flight number => (core.pause index (.ended ending)).move (.land number (landing ending))

def deliver (response : Response) : Core Far Held :=
  match response.error with
  | some fault => core.conclude index work (.failed ⟨fault, none⟩)
  | none =>
    match work with
    | .call .capabilities _ =>
      (core.move (.replace response.data)).conclude index work (.value (.octets response.data))
    | .call .certificate _ =>
      core.conclude index work (.value (.certificate response.data response.certificates))
    | _ => core.conclude index work (.value (.octets response.data))

private theorem pause_pause (stage next : Stage Held) :
    (core.pause index stage).pause index next = core.pause index next := by
  simp only [pause, List.modify_modify_eq]
  rfl

private theorem move_replace (list : Octets) :
    core.move (.replace list) = { core with cache := core.cache.replace list } := by
  have same : (core.cache.apply (.replace list)).flights.length = core.cache.flights.length :=
    congrArg List.length (core.cache.replace_flights list)
  unfold Core.move
  dsimp only
  rw [if_neg (by omega)]
  rfl

@[simp] theorem far_conclude (ending : Ending Result) :
    (core.conclude index work ending).far = core.far := by
  cases work with
  | call call own => rfl
  | flight number => rw [conclude, far_move, pause]

@[simp] theorem far_deliver (response : Response) :
    (core.deliver index work response).far = core.far := by
  unfold deliver
  split
  · exact core.far_conclude index work _
  · split <;> simp only [far_conclude, far_move]

theorem conclude_pause (stage : Stage Held) (ending : Ending Result) :
    (core.pause index stage).conclude index work ending = core.conclude index work ending := by
  cases work with
  | call call own => exact core.pause_pause index stage (.ended ending)
  | flight number =>
      simp only [conclude]
      rw [pause_pause]

theorem deliver_pause (stage : Stage Held) (response : Response) :
    (core.pause index stage).deliver index work response = core.deliver index work response := by
  have moved : ∀ list, (core.pause index stage).move (.replace list) =
      (core.move (.replace list)).pause index stage := by
    intro list
    rw [move_replace, move_replace]
    rfl
  unfold deliver
  split
  · exact core.conclude_pause index work stage _
  · split
    · rw [moved, conclude_pause]
    · exact core.conclude_pause index _ stage _
    · exact core.conclude_pause index _ stage _

end Core

/-! ### What happens to the core -/

variable (session : Session Far Held) (index : Nat)

private theorem core_update_of {change : Task Held → Task Held}
    (same : ∀ task, ((change task).work, (change task).stage) = (task.work, task.stage)) :
    (session.update index change).core = session.core := by
  have jobs : (session.tasks.modify index change).map (fun task => (task.work, task.stage)) =
      (session.tasks.map fun task => (task.work, task.stage)).modify index id :=
    map_modify same session.tasks index
  simp only [core, update, jobs, List.modify_id]

@[simp] theorem core_pause (stage : Stage Held) :
    (session.pause index stage).core = session.core.pause index stage := by
  have jobs : (session.tasks.modify index fun task => { task with stage, isRoused := false }).map
      (fun task => (task.work, task.stage)) =
        (session.tasks.map fun task => (task.work, task.stage)).modify index
          fun job => (job.1, stage) :=
    map_modify (by intro task; rfl) session.tasks index
  exact congrArg (Core.mk session.far session.cache) jobs

@[simp] theorem core_post (entry : Entry) : (session.post entry).core = session.core := rfl

@[simp] theorem core_record (records : List Audit.Record) :
    (session.record records).core = session.core := rfl

@[simp] theorem core_add (work : Work) :
    (session.add work).core = session.core.add work := by
  simp only [core, Core.add, add, List.map_append, List.map_cons, List.map_nil]

@[simp] theorem core_move (move : Cache.Move) :
    (session.move move).core = session.core.move move := by
  unfold Session.move Core.move
  dsimp only
  split
  · rename_i more
    rw [core_add]
    exact (if_pos more).symm
  · rename_i same
    exact (if_neg same).symm

@[simp] theorem core_rouse : (session.rouse index).core = session.core := by
  unfold rouse
  split
  · split
    · rw [core_post, core_update_of]
      intro task
      rfl
    · rfl
  · rfl

@[simp] theorem core_cancel : (session.cancel index).core = session.core := by
  rw [cancel, core_rouse, core_update_of]
  intro task
  rfl

@[simp] theorem core_watch (flight : Nat) :
    (session.watch index flight).core = session.core := by
  unfold watch
  split <;> rfl

@[simp] theorem core_limit (work : Work) : (session.limit index work).core = session.core := by
  unfold limit
  split
  · split <;> rfl
  · rfl

@[simp] theorem core_advance : session.advance.core = session.core := by
  unfold advance
  dsimp only
  split <;> rfl

private theorem core_foldl_rouse (entries : List (String × Nat)) :
    (entries.foldl (fun session entry => session.rouse entry.2) session).core =
      session.core := by
  induction entries generalizing session with
  | nil => rfl
  | cons first rest ih => rw [List.foldl_cons, ih, core_rouse]

@[simp] theorem core_release (gate : String) : (session.release gate).core = session.core :=
  core_foldl_rouse _ _

theorem core_conclude (work : Work) (ending : Ending Result) :
    (session.conclude index work ending).core = session.core.conclude index work ending := by
  cases work with
  | call call own => exact session.core_pause index (.ended ending)
  | flight number =>
      rw [Core.conclude, ← core_pause, ← core_move]
      rfl

private theorem deadlineOf_eq (work : Work) : session.deadlineOf work = work.due session.deadline :=
    by
  cases work with
  | flight number => rfl
  | call call own => cases own <;> rfl

theorem core_fail (line : Line Far Held) (work : Work) (raised : Raised) :
    (session.fail line index work raised).core =
      session.core.conclude index work (.failed (work.told line session.deadline raised)) := by
  rw [fail, core_conclude, deadlineOf_eq]
  rfl

theorem core_deliver (work : Work) (response : Response) :
    (session.deliver index work response).core = session.core.deliver index work response := by
  unfold deliver Core.deliver
  cases response.error with
  | some fault => exact session.core_conclude index work _
  | none =>
      cases work with
      | flight number => exact core_conclude _ index (.flight number) _
      | call call own =>
          cases call with
          | capabilities => simp only [core_conclude, core_record, core_move]
          | _ => exact session.core_conclude index _ _

theorem core_job {task : Task Held} (found : session.tasks[index]? = some task) :
    session.core.jobs[index]? = some (task.work, task.stage) := by
  rw [core, List.getElem?_map, found, Option.map_some]

/-! ### What tasks leave as it is -/

structure Kept (session next : Session Far Held) : Prop where
  deadline : next.deadline = session.deadline
  asked : next.asked = session.asked

theorem Kept.trans {session next last : Session Far Held} (first : Kept session next)
    (second : Kept next last) : Kept session last :=
  ⟨second.deadline.trans first.deadline, second.asked.trans first.asked⟩

private theorem kept_update (change : Task Held → Task Held) :
    Kept session (session.update index change) := ⟨rfl, rfl⟩

private theorem kept_record (records : List Audit.Record) : Kept session (session.record records) :=
  ⟨rfl, rfl⟩

private theorem kept_pause (stage : Stage Held) : Kept session (session.pause index stage) :=
    ⟨rfl, rfl⟩

theorem kept_move (move : Cache.Move) : Kept session (session.move move) := by
  unfold Session.move
  dsimp only
  split <;> exact ⟨rfl, rfl⟩

theorem kept_rouse : Kept session (session.rouse index) := by
  unfold rouse
  split
  · split <;> exact ⟨rfl, rfl⟩
  · exact ⟨rfl, rfl⟩

theorem kept_cancel : Kept session (session.cancel index) :=
  (session.kept_update index _).trans (kept_rouse _ index)

private theorem kept_announce (flight : Nat) : Kept session (session.announce flight) := ⟨rfl, rfl⟩

theorem kept_watch (flight : Nat) : Kept session (session.watch index flight) := by
  unfold watch
  split <;> exact ⟨rfl, rfl⟩

theorem kept_limit (work : Work) : Kept session (session.limit index work) := by
  unfold limit
  split
  · split <;> exact ⟨rfl, rfl⟩
  · exact ⟨rfl, rfl⟩

private theorem kept_advance : Kept session session.advance := by
  unfold advance
  dsimp only
  split <;> exact ⟨rfl, rfl⟩

private theorem kept_foldl_rouse (entries : List (String × Nat)) :
    Kept session (entries.foldl (fun session entry => session.rouse entry.2) session) := by
  induction entries generalizing session with
  | nil => exact ⟨rfl, rfl⟩
  | cons first rest ih => exact (session.kept_rouse first.2).trans (ih _)

private theorem kept_release (gate : String) : Kept session (session.release gate) := by
  unfold release
  dsimp only
  exact ⟨(kept_foldl_rouse _ _).deadline, (kept_foldl_rouse _ _).asked⟩

theorem kept_conclude (work : Work) (ending : Ending Result) :
    Kept session (session.conclude index work ending) := by
  cases work with
  | call call own => exact ⟨rfl, rfl⟩
  | flight number =>
      exact (session.kept_pause index (.ended ending)).trans
        ((kept_move _ _).trans (kept_announce _ number))

theorem kept_fail (line : Line Far Held) (work : Work) (raised : Raised) :
    Kept session (session.fail line index work raised) :=
  session.kept_conclude index work _

theorem kept_deliver (work : Work) (response : Response) :
    Kept session (session.deliver index work response) := by
  unfold deliver
  split
  · exact session.kept_conclude index work _
  · dsimp only
    split
    · exact (session.kept_record _).trans (kept_conclude _ index _ _)
    · exact (session.kept_move _).trans ((kept_record _ _).trans (kept_conclude _ index _ _))
    · exact session.kept_conclude index _ _
    · exact session.kept_conclude index _ _

theorem kept_finish (line : Line Far Held) (work : Work) (held : Held) :
    Kept session (session.finish line index work held) := by
  have heard : Kept session
      (({ session with far := (line.finish held session.far).1 } : Session Far Held).record
        (line.finish held session.far).2.1) := ⟨rfl, rfl⟩
  unfold finish
  dsimp only
  split
  · exact heard.trans (kept_fail _ index line work _)
  · exact heard.trans (kept_deliver _ index work _)

/-! ### What a happening may be -/

/-- A call comes, a task begins or goes on, or nothing happens but to the queue and
to those who wait. -/
inductive Occurs (line : Line Far Held) (session next : Session Far Held) : Prop where
  | rests (core : next.core = session.core) (kept : Kept session next)
  | called (call : Call) (own : Option Deadline)
    (core : next.core = session.core.add (.call call own)) (kept : Kept session next)
  | begins {before : Session Far Held} {index : Nat} {task : Task Held}
    (core : before.core = session.core) (kept : Kept session before)
    (found : before.tasks[index]? = some task) (queued : task.stage = .queued)
    (same : next = before.beginTask line index task)
  | goesOn {before : Session Far Held} {index : Nat} {task : Task Held}
    (core : before.core = session.core) (kept : Kept session before)
    (found : before.tasks[index]? = some task) (same : next = before.goOn line index task)

variable {session}

private theorem occurs_perform {before : Session Far Held} (core : before.core = session.core)
    (kept : Kept session before) (line : Line Far Held) (entry : Entry) :
    Occurs line session (before.perform line entry) := by
  cases entry with
  | begin index =>
      simp only [perform]
      split
      · rename_i task found
        split
        · rename_i queued
          exact .begins core kept found queued rfl
        · exact .rests core kept
      · exact .rests core kept
  | relay index =>
      exact .rests ((before.core_rouse index).trans core) (kept.trans (before.kept_rouse index))
  | wake index =>
      simp only [perform]
      split
      · rename_i task found
        split
        · exact .goesOn core kept found rfl
        · exact .rests core kept
      · exact .rests core kept
  | expire index =>
      simp only [perform]
      split
      · split
        · refine .rests ?_ (kept.trans ((before.kept_update index _).trans (kept_rouse _ index)))
          rw [core_rouse, core_update_of, core]
          intro task
          rfl
        · exact .rests core kept
      · exact .rests core kept
  | report => exact .rests core (kept.trans ⟨rfl, rfl⟩)
  | caller => exact .rests core kept

theorem occurs_happen (line : Line Far Held) (session : Session Far Held) (happening : Happening) :
    Occurs line session (session.happen line happening) := by
  cases happening with
  | called call own => exact .called call own (session.core_add _) ⟨rfl, rfl⟩
  | cancelled index => exact .rests (session.core_cancel index) (session.kept_cancel index)
  | performed place =>
      simp only [happen]
      split
      · rename_i entry _
        let before : Session Far Held := { session with queue := session.queue.eraseIdx place }
        have core : before.core = session.core := rfl
        exact occurs_perform core ⟨rfl, rfl⟩ line entry
      · exact .rests rfl ⟨rfl, rfl⟩
  | passed => exact .rests session.core_advance session.kept_advance
  | released gate => exact .rests (session.core_release gate) (session.kept_release gate)
  | noted => exact .rests rfl ⟨rfl, rfl⟩

end Scep.Session
