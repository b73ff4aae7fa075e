import Scep.Proofs.Cache.Remembrance
import Scep.Proofs.Cache.Running
import Scep.Proofs.Client.Session
import Scep.Proofs.Client.Step

/-!
Failures that a session tells.

Whatever goes wrong with a task that has an operation, its end is what the line
makes of it.  So is the failure of a fetch, which is told once by the fetch and
once more by each call that waited for it.
-/

namespace Scep.Session

variable {Far Held : Type} {line : Line Far Held} {session : Session Far Held} {index : Nat}
  {work : Work} {raised : Raised}

/-! ### Ends of tasks -/

private theorem Core.job_conclude {core : Core Far Held} (does : core.work? index = some work)
    (told : Work) (ending : Ending Result) :
    (core.conclude index told ending).jobs[index]? = some (work, .ended ending) := by
  obtain ⟨⟨same, stage⟩, placed, rfl⟩ := Option.map_eq_some_iff.mp does
  have paused : (core.pause index (.ended ending)).jobs[index]? = some (same, .ended ending) := by
    rw [Core.pause, List.getElem?_modify_eq, placed]
    rfl
  cases told with
  | call call own => exact paused
  | flight number => exact Core.job_move _ paused

theorem ending?_of_job {ending : Ending Result}
    (placed : session.core.jobs[index]? = some (work, .ended ending)) :
    session.ending? index = some ending := by
  rw [core, List.getElem?_map] at placed
  obtain ⟨task, found, same⟩ := Option.map_eq_some_iff.mp placed
  exact ending?_of_stage found (congrArg Prod.snd same)

private theorem ending?_fail (does : session.core.work? index = some work) (raised : Raised) :
    (session.fail line index work raised).ending? index =
      some (.failed (work.told line session.deadline raised)) := by
  apply ending?_of_job
  rw [core_fail]
  exact Core.job_conclude does work _

theorem ending?_finish {held : Held} {far : Far} {records : List Audit.Record}
    (does : session.core.work? index = some work)
    (finished : line.finish held session.far = (far, records, .error raised)) :
    (session.finish line index work held).ending? index =
      some (.failed (work.told line session.deadline raised)) := by
  simp only [finish, finished]
  refine ending?_fail ?_ raised
  exact does

theorem ending?_finish_flight {number : Nat} {held : Held} {far : Far}
    {records : List Audit.Record} (runs : session.cache.IsRunning number)
    (finished : line.finish held session.far = (far, records, .error raised)) :
    (session.finish line index (.flight number) held).cache.ending? number =
      some (.failed ((Work.flight number).told line session.deadline raised)) := by
  change (session.finish line index (.flight number) held).core.cache.ending? number = _
  simp only [finish, finished]
  rw [core_fail, Core.conclude, Core.cache_move]
  exact Cache.ending?_land runs _

theorem ending?_goOn_expired {task : Task Held} (found : session.tasks[index]? = some task)
    (stays : task.isCancelled = false) (late : task.hasExpired = true) :
    (session.goOn line index task).ending? index =
      some (.failed (task.work.told line session.deadline ⟨.plain .timeout "", none⟩)) := by
  have does := Core.work?_of_job (session.core_job index found)
  have moved : ∀ move, ((session.move move).fail line index task.work
      ⟨.plain .timeout "", none⟩).ending? index =
        some (.failed (task.work.told line session.deadline ⟨.plain .timeout "", none⟩)) := by
    intro move
    rw [ending?_fail (work?_session_move move does), (session.kept_move move).deadline]
  simp only [goOn, unwind, stays, late, Bool.false_or, if_true, Bool.false_eq_true, if_false]
  cases task.stage with
  | listing reader => exact moved _
  | closing closer => exact moved _
  | queued => exact ending?_fail does _
  | sending held => exact ending?_fail does _
  | ended ending => exact ending?_fail does _

theorem perform_wake_failed {call : Call} {own : Option Deadline} {reader flight : Nat}
    (stands : session.tasks[index]? =
      some { work := .call call own, stage := .listing reader, isRoused := true })
    (awaits : session.cache.awaited? reader = some flight)
    (ended : session.cache.ending? flight = some (.failed raised)) :
    (session.perform line (.wake index)).ending? index =
      some (.failed ((Work.call call own).told line session.deadline raised)) := by
  have resumed : session.cache.apply (.resume reader) =
      session.cache.setReader reader (.finished (.failed raised)) := by
    have brought : (session.cache.awaited? reader).bind session.cache.ending? =
        some (.failed raised) := by
      rw [awaits]
      exact ended
    simp only [Cache.apply, brought]
    rfl
  have placed := Cache.readers_setReader (Cache.awaited?_eq_some_iff.mp awaits)
    (.finished (.failed raised))
  have performed : session.perform line (.wake index) =
      session.read line index (.call call own) reader := by
    simp only [perform, stands, goOn, Bool.or_self, Bool.false_eq_true, if_false, if_true]
  rw [performed, read, move_of_length (by rw [resumed]; rfl), resumed]
  simp only [placed]
  refine ending?_fail ?_ raised
  exact Core.work?_of_job (session.core_job index stands)

/-! ### Lines that tell -/

/-- What is known of what a line tells, and of the operation of an exchange that
is under way.  Answers come without a fault of their own. -/
structure Telling (line : Line Far Held) where
  told : Raised → Prop
  asks : Held → Option Operation → Prop
  tells (operation : Operation) (deadline : Option Deadline) (raised : Raised) :
    told (line.tell operation deadline raised)
  starts {ask : Ask} {before after : Far} {records : List Audit.Record} {wait : Wait} {held : Held} :
    line.start ask before = (after, records, .ok (wait, held)) → asks held ask.request.operation
  finishes {held : Held} {before after : Far} {records : List Audit.Record} {response : Response} :
    line.finish held before = (after, records, .ok response) → response.error = none

namespace Telling

variable {telling : Telling line} {core : Core Far Held}

structure Holds (telling : Telling line) (core : Core Far Held) : Prop where
  ended {index : Nat} {work : Work} {raised : Raised} :
    core.jobs[index]? = some (work, .ended (.failed raised)) → work.operation? ≠ none →
      telling.told raised
  landed {number : Nat} {raised : Raised} :
    core.cache.ending? number = some (.failed raised) → telling.told raised
  sending {index : Nat} {work : Work} {held : Held} :
    core.jobs[index]? = some (work, .sending held) → telling.asks held work.operation?

private theorem told_work (telling : Telling line) (operated : work.operation? ≠ none)
    (deadline : Option Deadline) (raised : Raised) :
    telling.told (work.told line deadline raised) := by
  cases operation : work.operation? with
  | none => exact absurd operation operated
  | some named =>
      rw [Work.told, operation]
      exact telling.tells named _ raised

namespace Holds

theorem start (far : Far) (deadline : Option Deadline) :
    telling.Holds ({ far, deadline } : Session Far Held).core where
  ended placed := by cases placed
  landed failed := by cases failed
  sending placed := by cases placed

private theorem ofFar (holds : telling.Holds core) (far : Far) : telling.Holds { core with far } :=
  ⟨holds.ended, holds.landed, holds.sending⟩

private theorem pause (holds : telling.Holds core) (index : Nat) {stage : Stage Held}
    (ended : ∀ work raised, core.work? index = some work → stage = .ended (.failed raised) →
      work.operation? ≠ none → telling.told raised)
    (sending : ∀ work held, core.work? index = some work → stage = .sending held →
      telling.asks held work.operation?) : telling.Holds (core.pause index stage) where
  ended placed operated := by
    obtain ⟨before, found, ⟨here, shown⟩ | ⟨_, shown⟩⟩ := Core.job_of_pause placed
    · subst here
      exact ended _ _ (Core.work?_of_job found) shown.symm operated
    · subst shown
      exact holds.ended found operated
  landed := holds.landed
  sending placed := by
    obtain ⟨before, found, ⟨here, shown⟩ | ⟨_, shown⟩⟩ := Core.job_of_pause placed
    · subst here
      exact sending _ _ (Core.work?_of_job found) shown.symm
    · subst shown
      exact holds.sending found

private theorem wait (holds : telling.Holds core) (index : Nat) {stage : Stage Held}
    (fine : ∀ raised, stage ≠ .ended (.failed raised)) (here : ∀ held, stage ≠ .sending held) :
    telling.Holds (core.pause index stage) :=
  holds.pause index (fun _ raised _ same => absurd same (fine raised))
    fun _ held _ same => absurd same (here held)

private theorem add (holds : telling.Holds core) (work : Work) : telling.Holds (core.add work) where
  ended placed operated := by
    rcases Core.job_of_add placed with old | ⟨_, new⟩
    · exact holds.ended old operated
    · cases new
  landed := holds.landed
  sending placed := by
    rcases Core.job_of_add placed with old | ⟨_, new⟩
    · exact holds.sending old
    · cases new

private theorem move (holds : telling.Holds core) {move : Cache.Move}
    (told : ∀ number raised, move = .land number (.failed raised) → telling.told raised) :
    telling.Holds (core.move move) := by
  have moved : telling.Holds { core with cache := core.cache.apply move } := by
    refine ⟨holds.ended, ?_, holds.sending⟩
    intro number raised failed
    rcases Cache.failed_apply failed with before | lands
    · exact holds.landed before
    · exact told number raised lands
  unfold Core.move
  dsimp only
  split
  · exact moved.add _
  · exact moved

private theorem conclude (holds : telling.Holds core) (does : core.work? index = some work)
    {ending : Ending Result}
    (told : ∀ raised, ending = .failed raised → work.operation? ≠ none → telling.told raised) :
    telling.Holds (core.conclude index work ending) := by
  have paused : telling.Holds (core.pause index (.ended ending)) := by
    refine holds.pause index ?_ ?_
    · intro other raised also same operated
      rw [Option.some.inj (also.symm.trans does)] at operated
      cases same
      exact told raised rfl operated
    · intro other held _ same
      cases same
  cases work with
  | call call own => exact paused
  | flight number =>
      refine paused.move fun other raised lands => ?_
      cases ending with
      | failed inner =>
          cases lands
          exact told raised rfl (Option.some_ne_none _)
      | cancelled => cases lands
      | value result => cases result <;> cases lands

private theorem deliver (holds : telling.Holds core) (does : core.work? index = some work)
    {response : Response} (fine : response.error = none) :
    telling.Holds (core.deliver index work response) := by
  unfold Core.deliver
  rw [fine]
  dsimp only
  split
  · refine conclude (holds.move ?_) (Core.work?_move _ does) ?_
    · intro number raised same
      cases same
    · intro raised same
      cases same
  · exact holds.conclude does fun raised same => by cases same
  · exact holds.conclude does fun raised same => by cases same

private theorem step {next : Core Far Held} {deadline : Option Deadline}
    (holds : telling.Holds core) (step : Core.Step line deadline core next) :
    telling.Holds next := by
  cases step with
  | call call own => exact holds.add _
  | move idle =>
      refine holds.move fun number raised same => ?_
      rw [same] at idle
      cases idle
  | listen does reads reader =>
      exact holds.wait _ (fun _ same => by cases same) fun _ same => by cases same
  | close index closer =>
      exact holds.wait index (fun _ same => by cases same) fun _ same => by cases same
  | skip index =>
      exact holds.wait index (fun _ same => by cases same) fun _ same => by cases same
  | @start index work ask far records wait held does asks runs started =>
      refine (holds.ofFar far).pause index ?_ ?_
      · intro other raised _ same
        cases same
      · intro other also placed same
        cases same
        have whose : core.work? index = some other := placed
        rw [← Option.some.inj (does.symm.trans whose), ← asks.operation]
        exact telling.starts started
  | @refuse index work ask far records raised does asks refused =>
      refine (holds.ofFar far).conclude does fun raised same operated => ?_
      cases same
      exact telling.told_work operated _ _
  | @answer index work held far records response placed finished =>
      exact (holds.ofFar far).deliver (Core.work?_of_job placed) (telling.finishes finished)
  | @fault index work held far records raised placed finished =>
      refine (holds.ofFar far).conclude (Core.work?_of_job placed) fun raised same operated => ?_
      cases same
      exact telling.told_work operated _ _
  | fail does reason =>
      refine holds.conclude does fun raised same operated => ?_
      cases same
      exact telling.told_work operated _ _
  | leave does empty =>
      refine holds.conclude does fun raised same => ?_
      rcases empty with rfl | rfl <;> cases same
  | give does reads result => exact holds.conclude does fun raised same => by cases same

theorem run (holds : telling.Holds session.core) (happenings : List Happening) :
    telling.Holds (session.run line happenings).core :=
  run_preserves session holds (fun _ _ step holds => holds.step step) happenings

end Holds

end Telling

end Scep.Session
