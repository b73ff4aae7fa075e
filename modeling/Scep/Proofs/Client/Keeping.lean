import Scep.Proofs.Client.Step

/-!
How the capability lists that tasks are answered reach the cache.

Two kinds of tasks ask for the list, fetches and calls, and each brings what it
was answered into the cache by a move of its own.  A fetch lands only while it
runs, so the invariant says of every task that waits for the other end what it
has asked, and of every fetch that it is running.
-/

namespace Scep

def Ask.isForList (ask : Ask) : Bool := ask.request.operation == some .getCaCaps

namespace Session

variable {Far Held : Type}

def Work.isForList : Work → Bool
  | .flight _ | .call .capabilities _ => true
  | _ => false

/-- The lists that an answer adds to the ones so far.  An empty one is none. -/
def brought (isForList : Bool) (data : Octets) : List Octets :=
  if isForList && !data.isEmpty then [data] else []

theorem Work.Asks.isForList {work : Work} {ask : Ask} (asks : work.Asks ask) :
    ask.isForList = work.isForList := by
  cases asks <;> rfl

/-! ### What is kept -/

/-- What must hold of a task for its answer to come into the cache as it
should. -/
def Fits (asks : Held → Ask → Prop) (cache : Cache) (work : Work) : Stage Held → Prop
  | .sending held =>
    (∃ ask, asks held ask ∧ ask.isForList = work.isForList) ∧
      ∀ number, work = .flight number → cache.IsRunning number
  | .listing _ => ∀ number, work ≠ .flight number
  | _ => True

namespace Core

/-- The last of some lists is kept, and tasks are such that it will stay so. -/
structure Keeps (asks : Held → Ask → Prop) (lists : List Octets) (core : Core Far Held) :
    Prop where
  kept : core.cache.stored = lists.getLast?.getD []
  numbered {index number : Nat} {stage : Stage Held} :
    core.jobs[index]? = some (.flight number, stage) → number < core.cache.flights.length
  distinct {index other number : Nat} {stage otherStage : Stage Held} :
    core.jobs[index]? = some (.flight number, stage) →
      core.jobs[other]? = some (.flight number, otherStage) → index = other
  fits {index : Nat} {work : Work} {stage : Stage Held} :
    core.jobs[index]? = some (work, stage) → Fits asks core.cache work stage

variable {core : Core Far Held} {asks : Held → Ask → Prop} {lists : List Octets} {index : Nat}
  {work : Work} {stage : Stage Held}

theorem Keeps.ofFar (keeps : core.Keeps asks lists) (far : Far) :
    ({ core with far } : Core Far Held).Keeps asks lists :=
  ⟨keeps.kept, keeps.numbered, keeps.distinct, keeps.fits⟩

theorem Keeps.pause (keeps : core.Keeps asks lists) (index : Nat) (stage : Stage Held)
    (fits : ∀ work, core.work? index = some work → Fits asks core.cache work stage) :
    (core.pause index stage).Keeps asks lists where
  kept := keeps.kept
  numbered placed := by
    obtain ⟨before, found, _⟩ := job_of_pause placed
    exact keeps.numbered found
  distinct placed also := by
    obtain ⟨before, found, _⟩ := job_of_pause placed
    obtain ⟨earlier, alsoFound, _⟩ := job_of_pause also
    exact keeps.distinct found alsoFound
  fits placed := by
    obtain ⟨before, found, ⟨here, shown⟩ | ⟨_, shown⟩⟩ := job_of_pause placed
    · subst here shown
      exact fits _ (by rw [work?, found]; rfl)
    · subst shown
      exact keeps.fits found

theorem Keeps.add (keeps : core.Keeps asks lists) (work : Work)
    (fresh : ∀ number, work = .flight number → number < core.cache.flights.length ∧
      ∀ (index : Nat) (stage : Stage Held), core.jobs[index]? ≠ some (.flight number, stage)) :
    (core.add work).Keeps asks lists where
  kept := keeps.kept
  numbered placed := by
    rcases job_of_add placed with old | ⟨_, new⟩
    · exact keeps.numbered old
    · cases new
      exact (fresh _ rfl).1
  distinct placed also := by
    rcases job_of_add placed with old | ⟨last, new⟩
    · rcases job_of_add also with alsoOld | ⟨_, alsoNew⟩
      · exact keeps.distinct old alsoOld
      · cases alsoNew
        exact absurd old ((fresh _ rfl).2 _ _)
    · cases new
      rcases job_of_add also with alsoOld | ⟨alsoLast, _⟩
      · exact absurd alsoOld ((fresh _ rfl).2 _ _)
      · rw [last, alsoLast]
  fits placed := by
    rcases job_of_add placed with old | ⟨_, new⟩
    · exact keeps.fits old
    · cases new
      trivial

theorem Keeps.recache (keeps : core.Keeps asks lists) {cache : Cache} {others : List Octets}
    (kept : cache.stored = others.getLast?.getD [])
    (more : core.cache.flights.length ≤ cache.flights.length)
    (goesOn : ∀ (index number : Nat) (held : Held),
      core.jobs[index]? = some (.flight number, .sending held) →
      core.cache.IsRunning number → cache.IsRunning number) :
    ({ core with cache } : Core Far Held).Keeps asks others where
  kept := kept
  numbered placed := Nat.lt_of_lt_of_le (keeps.numbered placed) more
  distinct := keeps.distinct
  fits {index work stage} placed := by
    have before := keeps.fits placed
    cases stage with
    | sending held =>
        obtain ⟨asked, runs⟩ := before
        refine ⟨asked, ?_⟩
        intro number same
        rw [same] at placed
        exact goesOn index number held placed (runs number same)
    | listing reader => exact before
    | queued => trivial
    | closing closer => trivial
    | ended ending => trivial

private theorem Keeps.move (keeps : core.Keeps asks lists) {move : Cache.Move}
    {others : List Octets}
    (kept : (core.cache.apply move).stored = others.getLast?.getD [])
    (goesOn : ∀ (index number : Nat) (held : Held),
      core.jobs[index]? = some (.flight number, .sending held) →
      ∀ ending, move ≠ .land number ending) : (core.move move).Keeps asks others := by
  have more : core.cache.flights.length ≤ (core.cache.apply move).flights.length := by
    rcases core.cache.length_flights_apply move with same | one <;> omega
  have moved := keeps.recache kept more
    fun index number held placed running => running.apply (goesOn index number held placed)
  unfold Core.move
  dsimp only
  split
  · rename_i grown
    refine moved.add (.flight core.cache.flights.length) ?_
    intro number same
    cases same
    refine ⟨grown, ?_⟩
    -- Fetches are numbered in order, so no task can be that of the new one.
    intro index stage placed
    exact absurd (keeps.numbered placed) (Nat.lt_irrefl _)
  · exact moved

theorem Keeps.move_idle (keeps : core.Keeps asks lists) {move : Cache.Move}
    (idle : move.isIdle = true) : (core.move move).Keeps asks lists := by
  refine keeps.move ?_ ?_
  · rw [Cache.stored_apply_of_isIdle idle]
    exact keeps.kept
  · intro index number held placed ending same
    rw [same] at idle
    cases idle

/-! ### Ends of tasks -/

private theorem Keeps.land (keeps : core.Keeps asks lists) {number : Nat}
    (does : core.work? index = some (.flight number)) (ending : Ending Result)
    {others : List Octets}
    (kept : (core.cache.apply (.land number (landing ending))).stored =
      others.getLast?.getD []) :
    ((core.pause index (.ended ending)).move (.land number (landing ending))).Keeps asks
      others := by
  refine (keeps.pause index (.ended ending) fun _ _ => trivial).move kept ?_
  -- No other task is that of the fetch, and its own task is over.
  intro other flight held placed ending same
  cases same
  obtain ⟨before, found, ⟨_, shown⟩ | ⟨different, _⟩⟩ := job_of_pause placed
  · cases shown
  · obtain ⟨⟨work, stage⟩, here, does⟩ := Option.map_eq_some_iff.mp does
    cases does
    exact different (keeps.distinct here found)

theorem Keeps.conclude (keeps : core.Keeps asks lists) (does : core.work? index = some work)
    (ending : Ending Result)
    (empty : ∀ number data, work = .flight number → landing ending = .value data → data = []) :
    (core.conclude index work ending).Keeps asks lists := by
  cases work with
  | call call own => exact keeps.pause index (.ended ending) fun _ _ => trivial
  | flight number =>
      refine keeps.land does ending ?_
      rw [Cache.stored_apply]
      · exact keeps.kept
      · intro list given
        refine empty number list rfl ?_
        cases landed : landing ending with
        | value data =>
            rw [landed] at given
            cases given
            rfl
        | failed raised =>
            rw [landed] at given
            cases given
        | cancelled =>
            rw [landed] at given
            cases given

end Core

variable {asks : Held → Ask → Prop} {lists : List Octets} {index : Nat} {work : Work}

theorem brought_false (data : Octets) : brought false data = [] := rfl

private theorem kept_brought {stored next data : Octets} (kept : stored = lists.getLast?.getD [])
    (empty : data = [] → next = stored) (given : data ≠ [] → next = data) :
    next = (lists ++ brought true data).getLast?.getD [] := by
  cases data with
  | nil =>
      rw [empty rfl, kept]
      exact congrArg (fun all => (List.getLast? all).getD []) (List.append_nil lists).symm
  | cons first rest =>
      rw [given (List.cons_ne_nil first rest)]
      simp only [brought, List.isEmpty_cons, Bool.not_false, Bool.and_self, if_true,
        List.getLast?_concat, Option.getD_some]

theorem Core.Keeps.deliver {core : Core Far Held} (keeps : core.Keeps asks lists)
    (does : core.work? index = some work) {response : Response} (fine : response.error = none)
    (runs : ∀ number, work = .flight number → core.cache.IsRunning number) :
    (core.deliver index work response).Keeps asks
      (lists ++ brought work.isForList response.data) := by
  obtain ⟨operation, certificates, data, error⟩ := response
  subst fine
  cases work with
  | flight number =>
      refine keeps.land does (.value (.octets data)) (kept_brought keeps.kept ?_ ?_)
      · intro empty
        refine Cache.stored_apply fun list given => ?_
        cases given
        exact empty
      · intro given
        exact Cache.stored_land (runs number rfl) given
  | call call own =>
      cases call with
      | capabilities =>
          refine Core.Keeps.pause (keeps.move (kept_brought keeps.kept ?_ ?_) ?_) index _
            fun _ _ => trivial
          · intro empty
            refine Cache.stored_apply fun list given => ?_
            cases given
            exact empty
          · intro given
            exact core.cache.replace_stored_of_ne given
          · intro other number held placed ending same
            cases same
      | _ =>
          simp only [Work.isForList, brought_false, List.append_nil, Core.deliver]
          exact keeps.conclude does _ fun _ _ same => by cases same

end Session

end Scep
