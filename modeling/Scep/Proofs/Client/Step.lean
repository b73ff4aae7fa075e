import Mathlib.Logic.Relation
import Scep.Proofs.Client.Core

/-!
What can happen to the core of a session, step by step.

Every happening of a session is a chain of steps of a few kinds, and every
exchange goes through the stage of waiting for the other end, even one that is
answered at once.  An invariant of all runs has to be checked for the kinds of
steps and not for the functions of a session.
-/

namespace Scep.Session

variable {Far Held : Type}

/-! ### Steps -/

/-- What a task asks of the other end. -/
inductive Work.Asks : Work → Ask → Prop where
  | flight (number : Nat) : Asks (.flight number) .capabilities
  | capabilities (own : Option Deadline) : Asks (.call .capabilities own) .capabilities
  | certificate (own : Option Deadline) :
    Asks (.call .certificate own) ⟨.get, ⟨some .getCaCert, []⟩⟩
  | nextCertificate (own : Option Deadline) :
    Asks (.call .nextCertificate own) ⟨.get, ⟨some .getNextCaCert, []⟩⟩
  | enroll (message : Octets) (own : Option Deadline) (method : Method) :
    Asks (.call (.enroll message) own) ⟨method, ⟨some .pkiOperation, message⟩⟩

theorem Work.Asks.operation {work : Work} {ask : Ask} (asks : work.Asks ask) :
    ask.request.operation = work.operation? := by
  cases asks <;> rfl

namespace Core

variable (core : Core Far Held) (index : Nat) (work : Work)

def Reads : Prop :=
  (∀ number, work ≠ .flight number) ∨
    ∃ reader, core.jobs[index]? = some (work, .listing reader)

inductive Step (line : Line Far Held) (deadline : Option Deadline) :
    Core Far Held → Core Far Held → Prop where
  | call (core : Core Far Held) (call : Call) (own : Option Deadline) :
    Step line deadline core (core.add (.call call own))
  | move (core : Core Far Held) {move : Cache.Move} (idle : move.isIdle = true) :
    Step line deadline core (core.move move)
  | listen {core : Core Far Held} {index : Nat} {work : Work}
    (does : core.work? index = some work) (reads : core.Reads index work) (reader : Nat) :
    Step line deadline core (core.pause index (.listing reader))
  | close (core : Core Far Held) (index closer : Nat) :
    Step line deadline core (core.pause index (.closing closer))
  | skip (core : Core Far Held) (index : Nat) :
    Step line deadline core (core.pause index (.ended .cancelled))
  /-- A task starts an exchange.  The fetch that it is for, if it is for one, has
  begun. -/
  | start {core : Core Far Held} {index : Nat} {work : Work} {ask : Ask} {far : Far}
    {records : List Audit.Record} {wait : Wait} {held : Held}
    (does : core.work? index = some work) (asks : work.Asks ask)
    (runs : ∀ number, work = .flight number → number < core.cache.flights.length →
      core.cache.IsRunning number)
    (started : line.start ask core.far = (far, records, .ok (wait, held))) :
    Step line deadline core (({ core with far } : Core Far Held).pause index (.sending held))
  | refuse {core : Core Far Held} {index : Nat} {work : Work} {ask : Ask} {far : Far}
    {records : List Audit.Record} {raised : Raised}
    (does : core.work? index = some work) (asks : work.Asks ask)
    (refused : line.start ask core.far = (far, records, .error raised)) :
    Step line deadline core (({ core with far } : Core Far Held).conclude index work
      (.failed (work.told line deadline raised)))
  | answer {core : Core Far Held} {index : Nat} {work : Work} {held : Held} {far : Far}
    {records : List Audit.Record} {response : Response}
    (placed : core.jobs[index]? = some (work, .sending held))
    (finished : line.finish held core.far = (far, records, .ok response)) :
    Step line deadline core (({ core with far } : Core Far Held).deliver index work response)
  | fault {core : Core Far Held} {index : Nat} {work : Work} {held : Held} {far : Far}
    {records : List Audit.Record} {raised : Raised}
    (placed : core.jobs[index]? = some (work, .sending held))
    (finished : line.finish held core.far = (far, records, .error raised)) :
    Step line deadline core (({ core with far } : Core Far Held).conclude index work
      (.failed (work.told line deadline raised)))
  | fail {core : Core Far Held} {index : Nat} {work : Work} {raised : Raised}
    (does : core.work? index = some work)
    (reason : raised = ⟨.plain .timeout "", none⟩ ∨
      ∃ reader : Nat,
        core.cache.readers[reader]? = some (Cache.Reader.finished (.failed raised))) :
    Step line deadline core (core.conclude index work (.failed (work.told line deadline raised)))
  | leave {core : Core Far Held} {index : Nat} {work : Work} {ending : Ending Result}
    (does : core.work? index = some work)
    (empty : ending = .cancelled ∨ ending = .value .nothing) :
    Step line deadline core (core.conclude index work ending)
  | give {core : Core Far Held} {index : Nat} {work : Work}
    (does : core.work? index = some work) (reads : core.Reads index work) (result : Result) :
    Step line deadline core (core.conclude index work (.value result))

variable {core index work}

private theorem Reads.move (reads : core.Reads index work) (move : Cache.Move) :
    (core.move move).Reads index work := by
  rcases reads with isCall | ⟨reader, placed⟩
  · exact Or.inl isCall
  · exact Or.inr ⟨reader, job_move move placed⟩

end Core

variable {line : Line Far Held} {session next last : Session Far Held} {index : Nat} {work : Work}

/-! ### Chains of steps -/

/-- One session comes to be from another by steps, with the deadline of calls
unchanged. -/
structure Goes (line : Line Far Held) (session next : Session Far Held) : Prop where
  deadline : next.deadline = session.deadline
  steps : Relation.ReflTransGen (Core.Step line session.deadline) session.core next.core

namespace Goes

theorem refl (line : Line Far Held) (session : Session Far Held) : Goes line session session :=
  ⟨rfl, .refl⟩

theorem trans (first : Goes line session next) (second : Goes line next last) :
    Goes line session last := by
  have steps := second.steps
  rw [first.deadline] at steps
  exact ⟨second.deadline.trans first.deadline, first.steps.trans steps⟩

private theorem same (core : next.core = session.core)
    (deadline : next.deadline = session.deadline) :
    Goes line session next := by
  refine ⟨deadline, ?_⟩
  rw [core]

private theorem step {target : Core Far Held}
    (step : Core.Step line session.deadline session.core target)
    (core : next.core = target) (deadline : next.deadline = session.deadline) :
    Goes line session next := by
  refine ⟨deadline, ?_⟩
  rw [core]
  exact .single step

end Goes

/-! ### What tasks do -/

private theorem goes_fail {raised : Raised} (does : session.core.work? index = some work)
    (reason : raised = ⟨.plain .timeout "", none⟩ ∨
      ∃ reader : Nat,
        session.core.cache.readers[reader]? = some (Cache.Reader.finished (.failed raised))) :
    Goes line session (session.fail line index work raised) :=
  .step (.fail does reason) (session.core_fail index line work raised)
    (session.kept_fail index line work raised).deadline

private theorem goes_leave {ending : Ending Result} (does : session.core.work? index = some work)
    (empty : ending = .cancelled ∨ ending = .value .nothing) :
    Goes line session (session.conclude index work ending) :=
  .step (.leave does empty) (session.core_conclude index work ending)
    (session.kept_conclude index work ending).deadline

private theorem goes_give (does : session.core.work? index = some work)
    (reads : session.core.Reads index work) (result : Result) :
    Goes line session (session.conclude index work (.value result)) :=
  .step (.give does reads result) (session.core_conclude index work (.value result))
    (session.kept_conclude index work (.value result)).deadline

private theorem goes_move {move : Cache.Move} (idle : move.isIdle = true) :
    Goes line session (session.move move) :=
  .step (.move session.core idle) (session.core_move move) (session.kept_move move).deadline

theorem work?_session_move (move : Cache.Move) (does : session.core.work? index = some work) :
    (session.move move).core.work? index = some work := by
  rw [core_move]
  exact Core.work?_move move does

private theorem goes_finish {held : Held}
    (placed : session.core.jobs[index]? = some (work, .sending held)) :
    Goes line session (session.finish line index work held) := by
  rcases finished : line.finish held session.far with ⟨far, records, outcome⟩
  simp only [finish, finished]
  cases outcome with
  | error raised =>
      refine .step (.fault placed finished) ?_ (kept_fail _ index line work raised).deadline
      exact core_fail _ index line work raised
  | ok response =>
      refine .step (.answer placed finished) ?_ (kept_deliver _ index work response).deadline
      exact core_deliver _ index work response

private theorem core_finish_pause (session : Session Far Held) (line : Line Far Held) (index : Nat)
    (work : Work) (stage : Stage Held) (held : Held) :
    ((session.pause index stage).finish line index work held).core =
      (session.finish line index work held).core := by
  rcases finished : line.finish held session.far with ⟨far, records, outcome⟩
  have also : line.finish held (session.pause index stage).far = (far, records, outcome) := finished
  have paused : ({ session.pause index stage with far }.record records).core =
      ({ session with far }.record records).core.pause index stage :=
    core_pause ({ session with far } : Session Far Held) index stage
  cases outcome with
  | error raised =>
      simp only [finish, finished, also]
      rw [core_fail, core_fail, paused, Core.conclude_pause]
      rfl
  | ok response =>
      simp only [finish, finished, also]
      rw [core_deliver, core_deliver, paused, Core.deliver_pause]

private theorem goes_exchange {ask : Ask} (does : session.core.work? index = some work)
    (asks : work.Asks ask)
    (runs : ∀ number, work = .flight number → number < session.core.cache.flights.length →
      session.core.cache.IsRunning number) :
    Goes line session (session.exchange line index work ask) := by
  rcases started : line.start ask session.far with ⟨far, records, outcome⟩
  cases outcome with
  | error raised =>
      simp only [exchange, started]
      exact .step (.refuse does asks started) (core_fail _ index line work raised)
        (kept_fail _ index line work raised).deadline
  | ok outcome =>
      obtain ⟨wait, held⟩ := outcome
      let sent : Session Far Held :=
        { session with far, asked := (index, ask) :: session.asked }.record records
      have begun : Goes line session (sent.pause index (.sending held)) :=
        .step (.start does asks runs started) (core_pause sent index (.sending held)) rfl
      have placed : (sent.pause index (.sending held)).core.jobs[index]? =
          some (work, .sending held) := by
        obtain ⟨job, found, same⟩ := Option.map_eq_some_iff.mp does
        rw [core_pause, Core.pause, List.getElem?_modify_eq]
        change Option.map _ (session.core.jobs[index]?) = _
        rw [found, ← same]
        rfl
      -- An answer at once comes to a task that has just begun to wait.
      have answered : Goes line session (sent.finish line index work held) :=
        begun.trans ((goes_finish placed).trans
          (.same (sent.core_finish_pause line index work _ held).symm
            ((kept_finish sent index line work held).deadline.trans
              (kept_finish (sent.pause index (.sending held)) index line work held).deadline.symm)))
      cases wait with
      | ready =>
          simp only [exchange, started]
          exact answered
      | turn =>
          simp only [exchange, started]
          exact begun.trans (.same (core_rouse _ index) (kept_rouse _ index).deadline)
      | forever =>
          simp only [exchange, started]
          exact begun
      | gate name =>
          simp only [exchange, started]
          split
          · exact answered
          · exact begun.trans (.same rfl rfl)

/-! ### The capability list -/

private theorem goes_listed {ending : Ending Octets} {reader : Nat}
    (does : session.core.work? index = some work) (reads : session.core.Reads index work)
    (given : session.core.cache.readers[reader]? = some (Cache.Reader.finished ending)) :
    Goes line session (session.listed line index work ending) := by
  cases ending with
  | cancelled => exact goes_leave does (Or.inl rfl)
  | failed raised => exact goes_fail does (Or.inr ⟨reader, given⟩)
  | value list =>
      simp only [listed]
      split
      · exact goes_give does reads _
      · rename_i message own
        let selected : Audit.Event :=
          .transportSelected Operation.pkiOperation.name (methodFor list).name
        have recorded : Goes line session (session.record [{ event := selected }]) :=
          .same rfl rfl
        exact recorded.trans (goes_exchange does (.enroll message own _) fun number same => by
          cases same)
      · exact goes_give does reads _

private theorem goes_read (does : session.core.work? index = some work)
    (reads : session.core.Reads index work) (reader : Nat) :
    Goes line session (session.read line index work reader) := by
  have moved : Goes line session (session.move (.resume reader)) := goes_move rfl
  have goesOn := work?_session_move (.resume reader) does
  have readsOn : (session.move (.resume reader)).core.Reads index work := by
    rw [core_move]
    exact reads.move _
  simp only [read]
  split
  · rename_i ending given
    exact moved.trans (goes_listed goesOn readsOn given)
  · rename_i flight waits
    have waiting : Goes line (session.move (.resume reader))
        ((session.move (.resume reader)).pause index (.listing reader)) :=
      .step (.listen goesOn readsOn reader) (core_pause _ index _) rfl
    exact moved.trans (waiting.trans (.same (core_watch _ index flight)
      (kept_watch _ index flight).deadline))
  · exact moved

private theorem goes_shut (does : session.core.work? index = some work) (closer : Nat) :
    Goes line session (session.shut index work closer) :=
  (goes_move rfl).trans (goes_leave (work?_session_move (.closed closer) does) (Or.inr rfl))

private theorem goes_shutDown (does : session.core.work? index = some work) :
    Goes line session (session.shutDown index work) := by
  have moved : Goes line session (session.move .close) := goes_move rfl
  have goesOn := work?_session_move .close does
  simp only [shutDown]
  split
  · exact moved.trans (goes_leave goesOn (Or.inr rfl))
  · rename_i flight closes
    have waits : ∀ stopped : Session Far Held, Goes line (session.move .close) stopped →
        Goes line session
          ((stopped.pause index (.closing session.cache.closers.length)).watch index flight) := by
      intro stopped goes
      have paused : Goes line stopped (stopped.pause index (.closing session.cache.closers.length)) :=
        .step (.close stopped.core index _) (core_pause stopped index _) rfl
      exact moved.trans (goes.trans (paused.trans
        (.same (core_watch _ index flight) (kept_watch _ index flight).deadline)))
    -- Asking the fetch to stop is no step of its own.
    split
    · exact waits _ (.same (core_cancel _ _) (kept_cancel _ _).deadline)
    · exact waits _ (.refl line _)

/-! ### Entries of the queue -/

private theorem goes_limit (session : Session Far Held) (index : Nat) (work : Work) :
    Goes line session (session.limit index work) :=
  .same (session.core_limit index work) (session.kept_limit index work).deadline

private theorem goes_beginTask {task : Task Held} (found : session.tasks[index]? = some task) :
    Goes line session (session.beginTask line index task) := by
  have does := Core.work?_of_job (session.core_job index found)
  cases work : task.work with
  | flight number =>
      rw [work] at does
      have launched : Goes line session (session.move (.launch number)) := goes_move rfl
      have goesOn := work?_session_move (.launch number) does
      have cache : (session.move (.launch number)).core.cache =
          session.cache.apply (.launch number) := by
        rw [core_move, Core.cache_move]
        rfl
      simp only [beginTask, work]
      split
      · have skipped : Goes line (session.move (.launch number))
            ((session.move (.launch number)).pause index (.ended .cancelled)) :=
          .step (.skip _ index) (core_pause _ index _) rfl
        exact launched.trans (skipped.trans (.same rfl rfl))
      · rename_i going
        refine launched.trans
          ((goes_limit _ index (.flight number)).trans (goes_exchange ?_ (.flight number) ?_))
        · rw [core_limit]
          exact goesOn
        · intro other same within
          cases same
          change (session.move (.launch number)).core.cache.ending? number = none at going
          rw [core_limit, cache] at within ⊢
          rw [cache] at going
          exact Cache.isRunning_launch
            (by rw [Cache.length_flights_launch] at within; exact within) going
  | call call own =>
      rw [work] at does
      simp only [beginTask, work]
      split
      · exact goes_leave does (Or.inl rfl)
      · have limited : Goes line session (session.limit index (.call call own)) :=
          goes_limit session index _
        rw [← core_limit session index (.call call own)] at does
        have asked : Goes line session ((session.limit index (.call call own)).move .ask) :=
          limited.trans (goes_move rfl)
        have goesOn := work?_session_move .ask does
        have reads : ((session.limit index (.call call own)).move .ask).core.Reads index
            (.call call own) := Or.inl fun number same => by cases same
        have runs : ∀ number, Work.call call own = .flight number →
            number < (session.limit index (.call call own)).core.cache.flights.length →
            (session.limit index (.call call own)).core.cache.IsRunning number :=
          fun number same => by cases same
        cases call with
        | list => exact asked.trans (goes_read goesOn reads _)
        | supports capability => exact asked.trans (goes_read goesOn reads _)
        | enroll message => exact asked.trans (goes_read goesOn reads _)
        | capabilities => exact limited.trans (goes_exchange does (.capabilities own) runs)
        | certificate => exact limited.trans (goes_exchange does (.certificate own) runs)
        | nextCertificate => exact limited.trans (goes_exchange does (.nextCertificate own) runs)
        | close => exact limited.trans (goes_shutDown does)

private theorem goes_unwind {task : Task Held} (found : session.tasks[index]? = some task) :
    Goes line session (session.unwind line index task) := by
  have does := Core.work?_of_job (session.core_job index found)
  -- The task leaves the cache first, if it was there, and then ends.
  have left : ∀ next : Session Far Held, Goes line session next →
      next.core.work? index = some task.work →
      Goes line session (if task.isCancelled then next.conclude index task.work .cancelled
        else next.fail line index task.work ⟨.plain .timeout "", none⟩) := by
    intro next goes does
    split
    · exact goes.trans (goes_leave does (Or.inl rfl))
    · exact goes.trans (goes_fail does (Or.inl rfl))
  unfold unwind
  cases task.stage with
  | listing reader => exact left _ (goes_move rfl) (work?_session_move (.abandon reader) does)
  | closing closer => exact left _ (goes_move rfl) (work?_session_move (.quit closer) does)
  | queued => exact left _ (.refl line session) does
  | sending held => exact left _ (.refl line session) does
  | ended ending => exact left _ (.refl line session) does

private theorem goes_goOn {task : Task Held} (found : session.tasks[index]? = some task) :
    Goes line session (session.goOn line index task) := by
  have placed := session.core_job index found
  have does := Core.work?_of_job placed
  unfold goOn
  split
  · exact goes_unwind found
  · cases stage : task.stage with
    | queued => exact .refl line session
    | listing reader =>
        rw [stage] at placed
        exact goes_read does (Or.inr ⟨reader, placed⟩) reader
    | sending held =>
        rw [stage] at placed
        exact goes_finish placed
    | closing closer => exact goes_shut does closer
    | ended ending => exact .refl line session

/-! ### Runs -/

private theorem goes_happen (line : Line Far Held) (session : Session Far Held)
    (happening : Happening) :
    Goes line session (session.happen line happening) := by
  cases occurs_happen line session happening with
  | rests core kept => exact .same core kept.deadline
  | called call own core kept => exact .step (.call session.core call own) core kept.deadline
  | begins core kept found queued same =>
      rw [same]
      exact (Goes.same core kept.deadline).trans (goes_beginTask found)
  | goesOn core kept found same =>
      rw [same]
      exact (Goes.same core kept.deadline).trans (goes_goOn found)

theorem goes_run (line : Line Far Held) (session : Session Far Held)
    (happenings : List Happening) : Goes line session (session.run line happenings) := by
  induction happenings generalizing session with
  | nil => exact .refl line session
  | cons first rest ih => exact (goes_happen line session first).trans (ih _)

theorem run_preserves {holds : Core Far Held → Prop} (session : Session Far Held)
    (starts : holds session.core)
    (preserves : ∀ core next, Core.Step line session.deadline core next → holds core → holds next)
    (happenings : List Happening) : holds (session.run line happenings).core := by
  have reached : ∀ core, Relation.ReflTransGen (Core.Step line session.deadline) session.core core →
      holds core := by
    intro core steps
    induction steps with
    | refl => exact starts
    | tail _ step ih => exact preserves _ _ step ih
  exact reached _ (goes_run line session happenings).steps

end Scep.Session
