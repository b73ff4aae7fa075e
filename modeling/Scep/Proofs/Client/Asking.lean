import Scep.Proofs.Client.Turn

/-!
What tasks ask of the other end, in every run.

A task asks once, in the turn in which it has done with the capability list.  Two
tasks that wait for the list are two readers of the cache, so a turn of one leaves
the other where it is.
-/

namespace Scep.Session

variable {Far Held : Type} {line : Line Far Held}

/-! ### Cores after some moves -/

namespace Core

variable {core : Core Far Held} {index : Nat} {job : Work × Stage Held}

def run (core : Core Far Held) (moves : List Cache.Move) : Core Far Held :=
  moves.foldl Core.move core

private theorem cache_run (core : Core Far Held) (moves : List Cache.Move) :
    (core.run moves).cache = core.cache.run moves := by
  induction moves generalizing core with
  | nil => rfl
  | cons move rest ih =>
      change ((core.move move).run rest).cache = (core.cache.apply move).run rest
      rw [ih, cache_move]

theorem far_run (core : Core Far Held) (moves : List Cache.Move) :
    (core.run moves).far = core.far := by
  induction moves generalizing core with
  | nil => rfl
  | cons move rest ih => exact (ih (core.move move)).trans (core.far_move move)

private theorem job_run (placed : core.jobs[index]? = some job) (moves : List Cache.Move) :
    (core.run moves).jobs[index]? = some job := by
  induction moves generalizing core with
  | nil => exact placed
  | cons move rest ih => exact ih (job_move move placed)

private theorem job_of_move {move : Cache.Move}
    (placed : (core.move move).jobs[index]? = some job) :
    core.jobs[index]? = some job ∨
      core.cache.stored = [] ∧ ∃ number, job = (.flight number, .queued) := by
  unfold Core.move at placed
  dsimp only at placed
  split at placed
  · rename_i grown
    rcases job_of_add placed with old | ⟨_, new⟩
    · exact Or.inl old
    · refine Or.inr ⟨?_, _, new⟩
      by_cases missing : core.cache.stored = []
      · exact missing
      · exact absurd (Cache.settled_apply missing move).2 (Nat.ne_of_gt grown)
  · exact Or.inl placed

private theorem job_of_run {moves : List Cache.Move}
    (placed : (core.run moves).jobs[index]? = some job) :
    core.jobs[index]? = some job ∨
      core.cache.stored = [] ∧ ∃ number, job = (.flight number, .queued) := by
  induction moves generalizing core with
  | nil => exact Or.inl placed
  | cons move rest ih =>
      rcases ih placed with before | ⟨missing, new⟩
      · exact job_of_move before
      · refine Or.inr ⟨?_, new⟩
        rw [cache_move] at missing
        by_cases kept : core.cache.stored = []
        · exact kept
        · exact absurd missing (Cache.settled_apply kept move).1

theorem job_add (placed : core.jobs[index]? = some job) (work : Work) :
    (core.add work).jobs[index]? = some job :=
  (List.getElem?_append_left (List.getElem?_eq_some_iff.mp placed).1).trans placed

end Core

/-! ### The task that takes a turn -/

section Turns

variable {core seated opened next : Core Far Held} {index other reader : Nat} {work : Work}
  {stage late : Stage Held} {ask? : Option Ask} {job : Work × Stage Held}

private theorem Seats.moved (seats : Seats core stage seated reader) : ∃ moves, seated = core.run
    moves := by
  cases seats with
  | newcomer => exact ⟨[.ask], rfl⟩
  | seated => exact ⟨[], rfl⟩

theorem Opens.moved (opens : Opens core work stage opened late ask?) :
    ∃ moves, opened = core.run moves := by
  have resumed : ∀ {seated : Core Far Held} {reader : Nat}, Seats core stage seated reader →
      ∃ moves, seated.move (.resume reader) = core.run moves := by
    intro seated reader seats
    obtain ⟨moves, rfl⟩ := seats.moved
    refine ⟨moves ++ [.resume reader], ?_⟩
    rw [Core.run, Core.run, List.foldl_append]
    rfl
  cases opens with
  | acts unseated isLate asks => exact ⟨[], rfl⟩
  | @leaves reader _ isLate => exact ⟨[.abandon reader], rfl⟩
  | waits seats waiting => exact resumed seats
  | told seats finished isLate gives => exact resumed seats

namespace Acts

theorem readers (acts : Acts line opened next index late ask?) :
    next.cache.readers = opened.cache.readers := by
  obtain ⟨far, _, settles⟩ := acts
  obtain ⟨moves, apart, same⟩ := settles.cache
  rw [same]
  exact Cache.readers_run_of_apart apart

private theorem job_self (acts : Acts line opened next index late ask?)
    (placed : opened.jobs[index]? = some (work, stage)) : next.jobs[index]? = some (work, late) := by
  obtain ⟨far, _, settles⟩ := acts
  rw [settles.jobs]
  change (opened.jobs.modify index _)[index]? = _
  rw [List.getElem?_modify_eq, placed]
  rfl

private theorem job_of_ne (acts : Acts line opened next index late ask?)
    (different : index ≠ other) :
    next.jobs[other]? = opened.jobs[other]? := by
  obtain ⟨far, _, settles⟩ := acts
  rw [settles.jobs]
  exact List.getElem?_modify_ne _ _ different

end Acts

theorem Opens.cache (opens : Opens core work stage opened late ask?)
    (acts : Acts line opened next index late ask?) :
    ∃ moves, next.cache = core.cache.run moves := by
  obtain ⟨before, rfl⟩ := opens.moved
  obtain ⟨far, _, settles⟩ := acts
  obtain ⟨after, _, same⟩ := settles.cache
  refine ⟨before ++ after, ?_⟩
  rw [same]
  change (core.run before).cache.run after = _
  rw [Core.cache_run, Cache.run, Cache.run, Cache.run, List.foldl_append]

private theorem Opens.reader_of_ne (opens : Opens core work stage opened late ask?)
    (inside : reader < core.cache.readers.length) (others : stage ≠ .listing reader) :
    opened.cache.readers[reader]? = core.cache.readers[reader]? := by
  have resumed : ∀ {seated : Core Far Held} {mine : Nat}, Seats core stage seated mine →
      (seated.move (.resume mine)).cache.readers[reader]? = core.cache.readers[reader]? := by
    intro seated mine seats
    cases seats with
    | newcomer =>
        rw [Core.cache_move, Core.cache_move, Cache.reader_resume_of_ne (Nat.ne_of_gt inside),
          Cache.reader_ask inside]
    | seated =>
        rw [Core.cache_move, Cache.reader_resume_of_ne]
        intro same
        exact others (by rw [same])
  cases opens with
  | acts unseated isLate asks => rfl
  | leaves isLate =>
      rw [Core.cache_move, Cache.reader_abandon_of_ne]
      intro same
      exact others (by rw [same])
  | waits seats waiting => exact resumed seats
  | told seats finished isLate gives => exact resumed seats

theorem Work.asks_of_ask? {ending : Ending Octets} {ask : Ask}
    (asks : work.ask? ending = some ask) :
    work.Asks ask ∧ ∃ message own list, work = .call (.enroll message) own ∧
      ending = .value list ∧ ask = ⟨methodFor list, ⟨some .pkiOperation, message⟩⟩ := by
  unfold Work.ask? at asks
  split at asks
  · split at asks
    · cases asks
      exact ⟨.enroll _ _ _, _, _, _, rfl, rfl, rfl⟩
    · cases asks
  · cases asks

theorem Work.ask?_of_failed {ending : Ending Octets} (fails : ∀ list, ending ≠ .value list) :
    work.ask? ending = none := by
  cases ending with
  | value list => exact absurd rfl (fails list)
  | failed raised => rfl
  | cancelled => rfl

private theorem Seats.isLate (seats : Seats core stage seated reader) : Stage.isLate stage =
    false := by
  cases seats <;> rfl

theorem Opens.isLate_of_asks {ask : Ask} (opens : Opens core work stage opened late (some ask)) :
    work.Asks ask ∧ Stage.isLate stage = false ∧ Stage.isLate late = true := by
  generalize asks : some ask = ask? at opens
  cases opens with
  | acts unseated isLate known =>
      obtain ⟨queued, knows, _⟩ := known ask asks.symm
      subst queued
      exact ⟨knows, rfl, isLate⟩
  | leaves isLate => cases asks
  | waits seats waiting => cases asks
  | told seats finished isLate gives =>
      exact ⟨(Work.asks_of_ask? asks.symm).1, seats.isLate, isLate⟩

theorem Opens.stays_late (opens : Opens core work stage opened late ask?)
    (isLate : Stage.isLate stage = true) : Stage.isLate late = true := by
  cases opens with
  | acts unseated still asks => exact still
  | leaves still => exact still
  | waits seats waiting =>
      rw [seats.isLate] at isLate
      cases isLate
  | told seats finished still gives => exact still

private theorem Opens.seat (opens : Opens core work stage opened (.listing reader) ask?) :
    (∃ flight, opened.cache.readers[reader]? = some (.waiting flight)) ∧
      (stage = .listing reader ∨ reader = core.cache.readers.length) := by
  generalize waits : Stage.listing reader = late at opens
  cases opens with
  | acts unseated isLate asks =>
      subst waits
      cases isLate
  | leaves isLate =>
      subst waits
      cases isLate
  | told seats finished isLate gives =>
      subst waits
      cases isLate
  | waits seats waiting =>
      cases waits
      rw [Core.cache_move]
      refine ⟨⟨_, waiting⟩, ?_⟩
      cases seats with
      | newcomer => exact Or.inr rfl
      | seated => exact Or.inl rfl

end Turns

/-! ### What holds in every run -/

/-- Tasks are in order: who has asked has done with the list and has asked once, and
who waits for the list is a reader of the cache and nobody else is that reader. -/
structure Ordered (core : Core Far Held) (asked : List (Nat × Ask)) : Prop where
  asks {index : Nat} {ask : Ask} : (index, ask) ∈ asked → ∃ work stage,
    core.jobs[index]? = some (work, stage) ∧ work.Asks ask ∧ Stage.isLate stage = true
  once : (asked.map Prod.fst).Nodup
  seats {index reader : Nat} {work : Work} : core.jobs[index]? = some (work, .listing reader) →
    ∃ flight, core.cache.readers[reader]? = some (.waiting flight)
  alone {index other reader : Nat} {work also : Work} :
    core.jobs[index]? = some (work, .listing reader) →
      core.jobs[other]? = some (also, .listing reader) → index = other
  remembers : core.cache.Remembers
  isOpen : core.cache.IsOpen

namespace Ordered

variable {core : Core Far Held} {asked : List (Nat × Ask)}

theorem start (far : Far) (deadline : Option Deadline) :
    Ordered ({ far, deadline } : Session Far Held).core [] where
  asks member := absurd member List.not_mem_nil
  once := List.nodup_nil
  seats placed := by cases placed
  alone placed := by cases placed
  remembers := .start
  isOpen := .start

theorem not_asked {index : Nat} {work : Work} {stage : Stage Held} (ordered : Ordered core asked)
    (placed : core.jobs[index]? = some (work, stage)) (early : Stage.isLate stage = false)
    (ask : Ask) : (index, ask) ∉ asked := by
  intro member
  obtain ⟨_, _, found, _, isLate⟩ := ordered.asks member
  rw [placed] at found
  cases found
  rw [early] at isLate
  cases isLate

private theorem add (ordered : Ordered core asked) (work : Work) : Ordered (core.add work) asked
    where
  asks member := by
    obtain ⟨work, stage, placed, known⟩ := ordered.asks member
    exact ⟨work, stage, Core.job_add placed _, known⟩
  once := ordered.once
  seats placed := by
    rcases Core.job_of_add placed with old | ⟨_, new⟩
    · exact ordered.seats old
    · cases new
  alone placed also := by
    rcases Core.job_of_add placed with old | ⟨_, new⟩
    · rcases Core.job_of_add also with alsoOld | ⟨_, new⟩
      · exact ordered.alone old alsoOld
      · cases new
    · cases new
  remembers := ordered.remembers
  isOpen := ordered.isOpen

section Goes

variable {opened next : Core Far Held} {index other reader : Nat} {work also : Work}
  {stage late : Stage Held} {ask? : Option Ask}

private theorem listing_of (opens : Opens core work stage opened late ask?)
    (acts : Acts line opened next index late ask?)
    (different : index ≠ other) (waits : next.jobs[other]? = some (also, .listing reader)) :
    core.jobs[other]? = some (also, .listing reader) := by
  rw [acts.job_of_ne different] at waits
  obtain ⟨moves, rfl⟩ := opens.moved
  rcases Core.job_of_run waits with old | ⟨_, _, new⟩
  · exact old
  · cases new

theorem job_self (placed : core.jobs[index]? = some (work, stage))
    (opens : Opens core work stage opened late ask?)
    (acts : Acts line opened next index late ask?) : next.jobs[index]? = some (work, late) := by
  obtain ⟨moves, rfl⟩ := opens.moved
  exact acts.job_self (Core.job_run placed moves)

theorem job_of_ne {job : Work × Stage Held} (opens : Opens core work stage opened late ask?)
    (acts : Acts line opened next index late ask?) (different : index ≠ other)
    (placed : core.jobs[other]? = some job) : next.jobs[other]? = some job := by
  obtain ⟨moves, rfl⟩ := opens.moved
  rw [acts.job_of_ne different]
  exact Core.job_run placed moves

theorem reader_of_ne (ordered : Ordered core asked)
    (placed : core.jobs[index]? = some (work, stage))
    (opens : Opens core work stage opened late ask?)
    (acts : Acts line opened next index late ask?) (different : index ≠ other)
    (waits : core.jobs[other]? = some (also, .listing reader)) :
    next.cache.readers[reader]? = core.cache.readers[reader]? := by
  obtain ⟨flight, waiting⟩ := ordered.seats waits
  rw [acts.readers]
  refine opens.reader_of_ne (List.getElem?_eq_some_iff.mp waiting).1 ?_
  intro same
  rw [same] at placed
  exact different (ordered.alone placed waits)

private theorem apart (ordered : Ordered core asked)
    (placed : core.jobs[index]? = some (work, stage))
    (opens : Opens core work stage opened (.listing reader) ask?)
    (acts : Acts line opened next index (.listing reader) ask?) (different : index ≠ other) :
    next.jobs[other]? ≠ some (also, .listing reader) := by
  intro waits
  have before := listing_of opens acts different waits
  rcases opens.seat.2 with same | newcomer
  · rw [same] at placed
    exact different (ordered.alone placed before)
  · obtain ⟨flight, waiting⟩ := ordered.seats before
    exact absurd (List.getElem?_eq_some_iff.mp waiting).1 (by omega)

private theorem goes (ordered : Ordered core asked)
    (placed : core.jobs[index]? = some (work, stage))
    (opens : Opens core work stage opened late ask?)
    (acts : Acts line opened next index late ask?) :
    Ordered next ((ask?.map (index, ·)).toList ++ asked) := by
  obtain ⟨moves, cache⟩ := opens.cache acts
  have here := job_self placed opens acts
  refine ⟨?_, ?_, ?_, ?_, ?_, ?_⟩
  · intro other ask member
    rcases List.mem_append.mp member with new | old
    · cases ask? with
      | none => cases new
      | some asks =>
          cases List.mem_singleton.mp new
          obtain ⟨knows, _, isLate⟩ := opens.isLate_of_asks
          exact ⟨work, late, here, knows, isLate⟩
    · obtain ⟨also, before, found, knows, isLate⟩ := ordered.asks old
      by_cases same : index = other
      · subst same
        rw [placed] at found
        cases found
        exact ⟨work, late, here, knows, opens.stays_late isLate⟩
      · exact ⟨also, before, job_of_ne opens acts same found, knows, isLate⟩
  · cases ask? with
    | none => exact ordered.once
    | some ask =>
        refine List.nodup_cons.mpr ⟨?_, ordered.once⟩
        intro member
        obtain ⟨⟨other, before⟩, old, same⟩ := List.mem_map.mp member
        cases same
        exact ordered.not_asked placed opens.isLate_of_asks.2.1 before old
  · intro other reader also waits
    by_cases same : index = other
    · subst same
      rw [here] at waits
      cases waits
      rw [acts.readers]
      exact opens.seat.1
    · have before := listing_of opens acts same waits
      rw [ordered.reader_of_ne placed opens acts same before]
      exact ordered.seats before
  · intro first second reader one another waits alsoWaits
    by_cases mine : index = first
    · by_cases theirs : index = second
      · exact mine.symm.trans theirs
      · subst mine
        rw [here] at waits
        cases waits
        exact absurd alsoWaits (ordered.apart placed opens acts theirs)
    · by_cases theirs : index = second
      · subst theirs
        rw [here] at alsoWaits
        cases alsoWaits
        exact absurd waits (ordered.apart placed opens acts mine)
      · exact ordered.alone (listing_of opens acts mine waits)
          (listing_of opens acts theirs alsoWaits)
  · rw [cache]
    exact ordered.remembers.run moves
  · rw [cache]
    exact ordered.isOpen.run moves

end Goes

theorem turn {session next : Session Far Held} (ordered : Ordered session.core session.asked)
    (turn : Turn line session next) : Ordered next.core next.asked := by
  cases turn with
  | rests core asked =>
      rw [core, asked]
      exact ordered
  | called call own core asked =>
      rw [core, asked]
      exact ordered.add _
  | goes placed opens acts asked =>
      rw [asked]
      exact ordered.goes placed opens acts

theorem run {session : Session Far Held} (ordered : Ordered session.core session.asked)
    (line : Line Far Held) (happenings : List Happening) :
    Ordered (session.run line happenings).core (session.run line happenings).asked := by
  induction happenings generalizing session with
  | nil => exact ordered
  | cons first rest ih => exact ih (ordered.turn (turn_happen line session first))

end Ordered

/-! ### What lasts -/

section Lasts

variable {session last : Session Far Held} {index number : Nat} {work : Work}

private theorem Turn.work? (turn : Turn line session last)
    (does : session.core.work? index = some work) :
    last.core.work? index = some work := by
  obtain ⟨⟨same, stage⟩, placed, rfl⟩ := Option.map_eq_some_iff.mp does
  cases turn with
  | rests core asked =>
      rw [core]
      exact does
  | called call own core asked =>
      rw [core]
      exact Core.work?_of_job (Core.job_add placed _)
  | @goes taker _ _ _ _ _ found opens acts asked =>
      by_cases mine : taker = index
      · subst mine
        rw [found] at placed
        cases placed
        exact Core.work?_of_job (Ordered.job_self found opens acts)
      · exact Core.work?_of_job (Ordered.job_of_ne opens acts mine placed)

theorem work?_run (line : Line Far Held) (does : session.core.work? index = some work)
    (happenings : List Happening) :
    (session.run line happenings).core.work? index = some work := by
  induction happenings generalizing session with
  | nil => exact does
  | cons first rest ih => exact ih ((turn_happen line session first).work? does)

private theorem Turn.settled (turn : Turn line session last) (kept : session.cache.stored ≠ []) :
    last.cache.stored ≠ [] ∧
      ∀ index number, last.core.work? index = some (.flight number) →
        session.core.work? index = some (.flight number) := by
  cases turn with
  | rests core asked =>
      have cache : last.cache = session.cache := congrArg Core.cache core
      rw [core, cache]
      exact ⟨kept, fun _ _ does => does⟩
  | called call own core asked =>
      have cache : last.cache = session.cache := congrArg Core.cache core
      rw [core, cache]
      refine ⟨kept, fun index number does => ?_⟩
      obtain ⟨⟨work, stage⟩, placed, rfl⟩ := Option.map_eq_some_iff.mp does
      rcases Core.job_of_add placed with old | ⟨_, new⟩
      · exact Core.work?_of_job old
      · cases new
  | @goes taker also stage late opened ask? placed opens acts asked =>
      obtain ⟨moves, cache⟩ := opens.cache acts
      have still : last.core.cache.stored ≠ [] := by
        rw [cache]
        exact (Cache.settled_run kept moves).1
      refine ⟨still, fun index number does => ?_⟩
      by_cases same : taker = index
      · subst same
        rw [Core.work?_of_job (Ordered.job_self placed opens acts)] at does
        rw [Core.work?_of_job placed]
        exact does
      · obtain ⟨⟨work, stands⟩, found, rfl⟩ := Option.map_eq_some_iff.mp does
        rw [acts.job_of_ne same] at found
        obtain ⟨before, rfl⟩ := opens.moved
        rcases Core.job_of_run found with old | ⟨missing, _⟩
        · exact Core.work?_of_job old
        · exact absurd missing kept

private theorem settled_run (line : Line Far Held) (kept : session.cache.stored ≠ [])
    (happenings : List Happening)
    (does : (session.run line happenings).core.work? index = some (.flight number)) :
    session.core.work? index = some (.flight number) := by
  induction happenings generalizing session with
  | nil => exact does
  | cons first rest ih =>
      obtain ⟨still, old⟩ := (turn_happen line session first).settled kept
      exact old index number (ih still does)

/-- Where a list is kept, it is asked for by calls that do nothing else and by the
fetches that there were before. -/
theorem Ordered.asks_for_list {ask : Ask} (ordered : Ordered session.core session.asked)
    (kept : session.cache.stored ≠ []) (happenings : List Happening)
    (asks : (index, ask) ∈ (session.run line happenings).asked)
    (named : ask.request.operation = some .getCaCaps) :
    (∃ number, session.core.work? index = some (.flight number)) ∨
      ∃ own, (session.run line happenings).core.work? index = some (.call .capabilities own) := by
  obtain ⟨work, stage, placed, known, _⟩ := (ordered.run line happenings).asks asks
  have does := Core.work?_of_job placed
  cases known with
  | flight number => exact Or.inl ⟨number, settled_run line kept happenings does⟩
  | capabilities own => exact Or.inr ⟨own, does⟩
  | _ => cases named

end Lasts

end Scep.Session
