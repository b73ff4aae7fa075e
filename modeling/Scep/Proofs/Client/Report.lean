import Scep.Proofs.Client.Keeping

/-!
A session that attends to all that it hears.

Whatever happens, the list that is kept is the last one among the answers that
came over the line.  The answers are known from the line itself, whose report
says of each exchange what it added to them.
-/

namespace Scep.Session

variable {Far Held Answer : Type}

/-- A line on which all that was heard so far is known, and what of it was a
capability list. -/
structure Report (line : Line Far Held) (Answer : Type) where
  heard : Far → List Answer
  list? : Answer → Option Octets
  asks : Held → Ask → Prop
  starts (ask : Ask) (far : Far) : heard (line.start ask far).1 = heard far ∧
    ∀ wait held, (line.start ask far).2.2 = .ok (wait, held) → asks held ask
  finishes {held : Held} {ask : Ask} (far : Far) : asks held ask →
    ∃ added, heard (line.finish held far).1 = heard far ++ added ∧
      match (line.finish held far).2.2 with
      | .error _ => added.filterMap list? = []
      | .ok response =>
        response.error = none ∧ added.filterMap list? = brought ask.isForList response.data

def Report.lists {line : Line Far Held} (report : Report line Answer) (far : Far) : List Octets :=
  (report.heard far).filterMap report.list?

/-- What was heard in the past is part of what was heard by now, and the last
list of all that was heard is kept. -/
structure Report.Attends {line : Line Far Held} (report : Report line Answer)
    (past : List Answer) (core : Core Far Held) : Prop where
  past : past <+: report.heard core.far
  keeps : core.Keeps report.asks (report.lists core.far)

variable {line : Line Far Held} {report : Report line Answer} {past : List Answer}
  {core : Core Far Held} {index : Nat} {work : Work}

private theorem Report.lists_of_heard {far before : Far} {added : List Answer}
    (heard : report.heard far = report.heard before ++ added) :
    report.lists far = report.lists before ++ added.filterMap report.list? := by
  rw [Report.lists, heard, List.filterMap_append, Report.lists]

namespace Report.Attends

/-! ### Steps -/

private theorem of_far {next : Core Far Held} (attends : report.Attends past core)
    (far : next.far = core.far) (keeps : next.Keeps report.asks (report.lists core.far)) :
    report.Attends past next := by
  refine ⟨?_, ?_⟩
  · rw [far]
    exact attends.past
  · rw [far]
    exact keeps

private theorem pause (attends : report.Attends past core) (index : Nat) (stage : Stage Held)
    (fits : ∀ work, core.work? index = some work → Fits report.asks core.cache work stage) :
    report.Attends past (core.pause index stage) :=
  attends.of_far rfl (attends.keeps.pause index stage fits)

private theorem conclude (attends : report.Attends past core) (does : core.work? index = some work)
    (ending : Ending Result)
    (empty : ∀ number data, work = .flight number → landing ending = .value data → data = []) :
    report.Attends past (core.conclude index work ending) :=
  attends.of_far (core.far_conclude index work ending) (attends.keeps.conclude does ending empty)

private theorem fail (attends : report.Attends past core) (does : core.work? index = some work)
    (raised : Raised) : report.Attends past (core.conclude index work (.failed raised)) :=
  attends.conclude does _ fun _ _ _ landed => by cases landed

private theorem hear (attends : report.Attends past core) {far : Far} {added : List Answer}
    (heard : report.heard far = report.heard core.far ++ added)
    (nothing : added.filterMap report.list? = []) :
    report.Attends past { core with far } := by
  refine ⟨?_, ?_⟩
  · rw [heard]
    exact attends.past.trans (List.prefix_append _ _)
  · rw [report.lists_of_heard heard, nothing, List.append_nil]
    exact attends.keeps.ofFar far

private theorem started (attends : report.Attends past core) {ask : Ask} {far : Far}
    {records : List Audit.Record} {outcome : Except Raised (Wait × Held)}
    (starts : line.start ask core.far = (far, records, outcome)) :
    report.Attends past { core with far } := by
  have heard := (report.starts ask core.far).1
  rw [starts] at heard
  exact attends.hear (heard.trans (List.append_nil _).symm) rfl

private theorem deliver (attends : report.Attends past core) {held : Held} {far : Far}
    {records : List Audit.Record} {response : Response}
    (placed : core.jobs[index]? = some (work, .sending held))
    (finished : line.finish held core.far = (far, records, .ok response)) :
    report.Attends past (({ core with far } : Core Far Held).deliver index work response) := by
  obtain ⟨⟨ask, asked, same⟩, runs⟩ := attends.keeps.fits placed
  have finishes := report.finishes core.far asked
  rw [finished] at finishes
  obtain ⟨added, heard, fine, lists⟩ := finishes
  -- The lists up to now are kept, and what was heard last is still to come.
  have delivered :=
    (attends.keeps.ofFar far).deliver (Core.work?_of_job placed) fine runs
  refine ⟨?_, ?_⟩
  · rw [Core.far_deliver, heard]
    exact attends.past.trans (List.prefix_append _ _)
  · rw [Core.far_deliver, report.lists_of_heard heard, lists, same]
    exact delivered

private theorem fault (attends : report.Attends past core) {held : Held} {far : Far}
    {records : List Audit.Record} {raised : Raised}
    (placed : core.jobs[index]? = some (work, .sending held))
    (finished : line.finish held core.far = (far, records, .error raised)) :
    report.Attends past { core with far } := by
  obtain ⟨⟨ask, asked, _⟩, _⟩ := attends.keeps.fits placed
  have finishes := report.finishes core.far asked
  rw [finished] at finishes
  obtain ⟨added, heard, nothing⟩ := finishes
  exact attends.hear heard nothing

private theorem step {next : Core Far Held} {deadline : Option Deadline}
    (attends : report.Attends past core) (step : Core.Step line deadline core next) :
    report.Attends past next := by
  cases step with
  | call call own =>
      exact attends.of_far rfl (attends.keeps.add _ fun number same => by cases same)
  | move idle => exact attends.of_far (core.far_move _) (attends.keeps.move_idle idle)
  | listen does reads reader =>
      refine attends.pause _ _ fun other also => ?_
      rw [← Option.some.inj (does.symm.trans also)]
      -- A task that has waited for the list before is no fetch.
      rcases reads with isCall | ⟨before, placed⟩
      · exact isCall
      · exact fun number => attends.keeps.fits placed number
  | close index closer => exact attends.pause index _ fun _ _ => trivial
  | skip index => exact attends.pause index _ fun _ _ => trivial
  | @start index work ask far records wait held does asks runs started =>
      refine (attends.started started).pause index _ fun other also => ?_
      rw [← Option.some.inj (does.symm.trans also)]
      have asked := (report.starts ask core.far).2 wait held (by rw [started])
      refine ⟨⟨ask, asked, asks.isForList⟩, fun number same => ?_⟩
      obtain ⟨job, placed, rfl⟩ := Option.map_eq_some_iff.mp does
      have numbered : core.jobs[index]? = some (.flight number, job.2) := by
        rw [placed, ← same]
      exact runs number same (attends.keeps.numbered numbered)
  | refuse does asks refused => exact (attends.started refused).fail does _
  | answer placed finished => exact attends.deliver placed finished
  | fault placed finished =>
      exact (attends.fault placed finished).fail (Core.work?_of_job placed) _
  | fail does reason => exact attends.fail does _
  | leave does empty =>
      refine attends.conclude does _ fun number data _ landed => ?_
      rcases empty with rfl | rfl
      · cases landed
      · cases landed
        rfl
  | give does reads result =>
      refine attends.conclude does _ fun number data same _ => ?_
      rcases reads with isCall | ⟨reader, placed⟩
      · exact absurd same (isCall number)
      · exact absurd same (attends.keeps.fits placed number)

theorem run {session : Session Far Held} (attends : report.Attends past session.core)
    (happenings : List Happening) : report.Attends past (session.run line happenings).core :=
  run_preserves session attends (fun _ _ step attends => attends.step step) happenings

end Report.Attends

end Scep.Session
