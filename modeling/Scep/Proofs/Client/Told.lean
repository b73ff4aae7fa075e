import Scep.Proofs.Client.Asking
import Scep.Proofs.Client.Telling

/-!
What tasks are told of the capability list, and what follows from it.

A task is told once, in the turn in which it reads the cache for the last time.
It asks for an enrollment in that turn or never, and what it asks follows from the
list that it is told.
-/

namespace Scep.Session

variable {Far Held : Type} {line : Line Far Held}

/-! ### What tasks are told -/

/-- The reader that a task is, or will be if it takes its turn now. -/
def Stage.reader? (cache : Cache) : Stage Held → Option Nat
  | .queued => some cache.readers.length
  | .listing reader => some reader
  | _ => none

def Core.reader? (core : Core Far Held) (index : Nat) : Option Nat :=
  core.jobs[index]?.bind fun job => job.2.reader? core.cache

/-- A task is told the list, or that there is none: it is a reader of the cache that
finishes, and reads no more. -/
structure Told (core next : Core Far Held) (index : Nat) (ending : Ending Octets) : Prop where
  finishes : ∃ reader, core.reader? index = some reader ∧
    next.cache.readers[reader]? = some (.finished ending)
  goesOn : next.reader? index = none

section Told

variable {core seated opened next : Core Far Held} {session last : Session Far Held}
  {asked : List (Nat × Ask)} {index reader : Nat} {work : Work} {stage late : Stage Held}
  {ask? : Option Ask} {ask : Ask} {ending : Ending Octets} {list : Octets}

private theorem Stage.reader?_of_isLate (isLate : Stage.isLate stage = true) (cache : Cache) :
    stage.reader? cache = none := by
  cases stage with
  | queued => cases isLate
  | listing reader => cases isLate
  | _ => rfl

private theorem Core.reader?_of_job (placed : core.jobs[index]? = some (work, stage)) :
    core.reader? index = stage.reader? core.cache := by
  rw [reader?, placed]
  rfl

private theorem Core.job_of_reader? (reads : core.reader? index = some reader) :
    ∃ work stage, core.jobs[index]? = some (work, stage) ∧
      stage.reader? core.cache = some reader := by
  obtain ⟨⟨work, stage⟩, placed, stands⟩ := Option.bind_eq_some_iff.mp reads
  exact ⟨work, stage, placed, stands⟩

private theorem Stage.isLate_of_reader? {cache : Cache}
    (stands : stage.reader? cache = some reader) :
    Stage.isLate stage = false := by
  cases isLate : Stage.isLate stage with
  | false => rfl
  | true =>
      rw [Stage.reader?_of_isLate isLate] at stands
      cases stands

private theorem Seats.reader?_eq (seats : Seats core stage seated reader) :
    stage.reader? core.cache = some reader := by
  cases seats <;> rfl

private theorem Told.not_of_job (told : Told core next index ending)
    (same : ∀ job, core.jobs[index]? = some job → next.jobs[index]? = some job) : False := by
  obtain ⟨reader, reads, _⟩ := told.finishes
  obtain ⟨work, stage, placed, stands⟩ := Core.job_of_reader? reads
  have goesOn := told.goesOn
  rw [Core.reader?_of_job (same _ placed)] at goesOn
  cases stage with
  | queued => cases goesOn
  | listing reader => cases goesOn
  | _ => cases stands

private theorem Acts.told (acts : Acts line (seated.move (.resume reader)) next index late ask?)
    (placed : core.jobs[index]? = some (work, stage))
    (here : next.jobs[index]? = some (work, late)) (isLate : Stage.isLate late = true)
    (seats : Seats core stage seated reader)
    (finished : (seated.cache.apply (.resume reader)).readers[reader]? = some (.finished ending)) :
    Told core next index ending where
  finishes := by
    refine ⟨reader, ?_, ?_⟩
    · rw [Core.reader?_of_job placed]
      exact seats.reader?_eq
    · rw [acts.readers, Core.cache_move]
      exact finished
  goesOn := by rw [Core.reader?_of_job here, Stage.reader?_of_isLate isLate]

private theorem Told.before (told : Told core next index ending) (ordered : Ordered core asked) :
    (∃ work, core.work? index = some work) ∧ ∀ ask, (index, ask) ∉ asked := by
  obtain ⟨reader, reads, _⟩ := told.finishes
  obtain ⟨work, stage, placed, stands⟩ := Core.job_of_reader? reads
  exact ⟨⟨work, Core.work?_of_job placed⟩,
    ordered.not_asked placed (Stage.isLate_of_reader? stands)⟩

private theorem Opens.of_told (opens : Opens core work stage opened late ask?)
    (ordered : Ordered core asked) (placed : core.jobs[index]? = some (work, stage))
    (acts : Acts line opened next index late ask?) (told : Told core next index ending) :
    ask? = work.ask? ending ∧ Stage.isLate late = true ∧
      ∀ list, ending = .value list → ∃ seated reader, Seats core stage seated reader ∧
        (seated.cache.apply (.resume reader)).readers[reader]? = some (.finished (.value list)) ∧
        (work.ask? ending = none → late = .ended (.value (work.reading list))) := by
  obtain ⟨reader, reads, finished⟩ := told.finishes
  have goesOn := told.goesOn
  rw [Core.reader?_of_job (Ordered.job_self placed opens acts)] at goesOn
  rw [Core.reader?_of_job placed] at reads
  rw [acts.readers] at finished
  cases opens with
  | acts unseated isLate asks =>
      cases stage with
      | queued =>
          -- There is no newcomer yet, so there is nobody to be told.
          cases reads
          rw [List.getElem?_eq_none (Nat.le_refl _)] at finished
          cases finished
      | listing reader => exact absurd rfl (unseated reader)
      | _ => cases reads
  | leaves isLate =>
      cases reads
      obtain ⟨flight, waiting⟩ := ordered.seats placed
      rw [Core.cache_move] at finished
      simp only [Cache.apply, Cache.awaited?, waiting] at finished
      rw [Cache.readers_setReader waiting] at finished
      cases finished
      exact ⟨rfl, isLate, fun _ same => by cases same⟩
  | waits seats waiting => cases goesOn
  | told seats known isLate gives =>
      rw [seats.reader?_eq] at reads
      cases reads
      rw [Core.cache_move, known] at finished
      cases finished
      refine ⟨rfl, isLate, ?_⟩
      intro list same
      subst same
      exact ⟨_, reader, seats, known, gives list rfl⟩

theorem Ordered.of_told (ordered : Ordered session.core session.asked)
    (turn : Turn line session last) (told : Told session.core last.core index ending)
    (does : session.core.work? index = some work) :
    last.asked = ((work.ask? ending).map (index, ·)).toList ++ session.asked ∧
      ∃ stage late, session.core.jobs[index]? = some (work, stage) ∧
        last.core.jobs[index]? = some (work, late) ∧ Stage.isLate late = true ∧
        ∀ list, ending = .value list → ∃ seated reader, Seats session.core stage seated reader ∧
          (seated.cache.apply (.resume reader)).readers[reader]? = some (.finished (.value list)) ∧
          (work.ask? ending = none → late = .ended (.value (work.reading list))) := by
  cases turn with
  | rests core asked =>
      refine (told.not_of_job fun job placed => ?_).elim
      rw [core]
      exact placed
  | called call own core asked =>
      refine (told.not_of_job fun job placed => ?_).elim
      rw [core]
      exact Core.job_add placed _
  | @goes taker also stage late opened ask? placed opens acts asked =>
      by_cases same : taker = index
      · subst same
        rw [Core.work?_of_job placed] at does
        cases does
        obtain ⟨asks, isLate, reads⟩ := opens.of_told ordered placed acts told
        rw [asks] at asked
        exact ⟨asked, stage, late, placed, Ordered.job_self placed opens acts, isLate, reads⟩
      · exact (told.not_of_job fun job before => Ordered.job_of_ne opens acts same before).elim

private theorem Ordered.source (ordered : Ordered core asked)
    (placed : core.jobs[index]? = some (work, stage)) (seats : Seats core stage seated reader)
    (finished : (seated.cache.apply (.resume reader)).readers[reader]? =
      some (.finished (.value list))) :
    list ≠ [] ∧ list = core.cache.stored ∨
      list = [] ∧ stage = .listing reader ∧ ∃ flight,
        core.cache.readers[reader]? = some (.waiting flight) ∧
        core.cache.ending? flight = some (.value []) := by
  cases seats with
  | newcomer =>
      rw [Core.cache_move] at finished
      exact Or.inl (ordered.remembers.told_newcomer ordered.isOpen finished)
  | seated =>
      obtain ⟨flight, waiting⟩ := ordered.seats placed
      obtain ⟨brought, ended, ⟨empty, same⟩ | ⟨_, given, same⟩⟩ :=
        ordered.remembers.told_value waiting finished
      · subst empty
        exact Or.inr ⟨same, rfl, flight, waiting, ended⟩
      · exact Or.inl ⟨given, same⟩

theorem Told.source (told : Told session.core last.core index (.value list))
    (ordered : Ordered session.core session.asked) (turn : Turn line session last) :
    list ≠ [] ∧ list = session.cache.stored ∨
      list = [] ∧ ∃ reader flight, session.core.reader? index = some reader ∧
        session.cache.awaited? reader = some flight ∧
        session.cache.ending? flight = some (.value []) := by
  obtain ⟨⟨work, does⟩, _⟩ := told.before ordered
  obtain ⟨_, stage, late, placed, _, _, reads⟩ := ordered.of_told turn told does
  obtain ⟨seated, reader, seats, finished, _⟩ := reads list rfl
  rcases ordered.source placed seats finished with kept | ⟨empty, isListing, flight, waits, ended⟩
  · exact Or.inl kept
  · refine Or.inr ⟨empty, reader, flight, ?_, Cache.awaited?_eq_some_iff.mpr waits, ended⟩
    rw [Core.reader?_of_job placed, isListing]
    rfl

theorem Told.supports {capability : String} {own : Option Deadline}
    (told : Told session.core last.core index (.value list))
    (ordered : Ordered session.core session.asked) (turn : Turn line session last)
    (does : session.core.work? index = some (.call (.supports capability) own)) :
    last.ending? index = some (.value (.truth (Cache.advertises list capability))) := by
  obtain ⟨_, stage, late, _, placed, _, reads⟩ := ordered.of_told turn told does
  obtain ⟨seated, reader, _, _, gives⟩ := reads list rfl
  rw [gives rfl] at placed
  exact ending?_of_job placed

private theorem Turn.told_of_ask {message : Octets} {own : Option Deadline}
    (turn : Turn line session last) (asks : (index, ask) ∈ last.asked)
    (does : last.core.work? index = some (.call (.enroll message) own)) :
    (index, ask) ∈ session.asked ∨ ∃ list, Told session.core last.core index (.value list) ∧
      ask = ⟨methodFor list, ⟨some .pkiOperation, message⟩⟩ := by
  cases turn with
  | rests core asked =>
      rw [asked] at asks
      exact Or.inl asks
  | called call own core asked =>
      rw [asked] at asks
      exact Or.inl asks
  | goes placed opens acts asked =>
      rw [asked] at asks
      rcases List.mem_append.mp asks with new | old
      · right
        obtain ⟨other, same, also⟩ := Option.map_eq_some_iff.mp (Option.mem_toList.mp new)
        cases also
        have here := Ordered.job_self placed opens acts
        rw [Core.work?_of_job here] at does
        cases does
        generalize enrolls : Work.call (.enroll message) own = work at placed opens here
        cases opens with
        | acts unseated isLate known => exact absurd enrolls.symm ((known _ same).2.2 _ _)
        | leaves isLate => cases same
        | waits seats waiting => cases same
        | told seats finished isLate gives =>
            obtain ⟨_, _, _, list, isEnrollment, rfl, made⟩ := Work.asks_of_ask? same
            rw [← enrolls] at isEnrollment
            cases isEnrollment
            exact ⟨list, acts.told placed here isLate seats finished, made⟩
      · exact Or.inl old

theorem Ordered.told_of_asked {message : Octets} {own : Option Deadline}
    (ordered : Ordered session.core session.asked) (happenings : List Happening)
    (asks : (index, ask) ∈ (session.run line happenings).asked)
    (does : (session.run line happenings).core.work? index =
      some (.call (.enroll message) own)) :
    (index, ask) ∈ session.asked ∨ ∃ before happening after list,
      happenings = before ++ happening :: after ∧
      Told (session.run line before).core (session.run line (before ++ [happening])).core index
        (.value list) ∧
      ask = ⟨methodFor list, ⟨some .pkiOperation, message⟩⟩ := by
  induction happenings generalizing session with
  | nil => exact Or.inl asks
  | cons first rest ih =>
      have happens := turn_happen line session first
      have orderly := ordered.turn happens
      rcases ih orderly asks does with asked | ⟨before, happening, after, list, split, told, made⟩
      · obtain ⟨known, stage, placed, _⟩ := orderly.asks asked
        have still := work?_run line (Core.work?_of_job placed) rest
        rw [run_cons, still] at does
        cases does
        rcases happens.told_of_ask asked (Core.work?_of_job placed) with old | ⟨list, told, made⟩
        · exact Or.inl old
        · exact Or.inr ⟨[], first, rest, list, rfl, told, made⟩
      · exact Or.inr ⟨first :: before, happening, after, list, congrArg _ split, told, made⟩

end Told

/-! ### Tasks that never ask -/

/-- A task never asks that has not and has done with the list, or that waits for a
fetch that is over and has brought none. -/
inductive Silent (core : Core Far Held) (asked : List (Nat × Ask)) (index : Nat) : Prop where
  | late {work : Work} {stage : Stage Held} (placed : core.jobs[index]? = some (work, stage))
    (isLate : Stage.isLate stage = true) (never : ∀ ask, (index, ask) ∉ asked)
  | failed {work : Work} {reader flight : Nat} {ending : Ending Octets}
    (placed : core.jobs[index]? = some (work, .listing reader))
    (waits : core.cache.readers[reader]? = some (.waiting flight))
    (ended : core.cache.ending? flight = some ending) (fails : ∀ list, ending ≠ .value list)

namespace Silent

variable {session last : Session Far Held} {index : Nat}

private theorem not_asked {core : Core Far Held} {asked : List (Nat × Ask)}
    (silent : Silent core asked index) (ordered : Ordered core asked) (ask : Ask) :
    (index, ask) ∉ asked := by
  cases silent with
  | late placed isLate never => exact never ask
  | failed placed waits ended fails => exact ordered.not_asked placed rfl ask

private theorem of_opens {core opened : Core Far Held} {asked : List (Nat × Ask)} {work : Work}
    {stage late : Stage Held} {ask? : Option Ask} (silent : Silent core asked index)
    (ordered : Ordered core asked) (placed : core.jobs[index]? = some (work, stage))
    (opens : Opens core work stage opened late ask?) :
    ask? = none ∧ Stage.isLate late = true := by
  cases silent with
  | late found isLate never =>
      rw [placed] at found
      cases found
      refine ⟨?_, opens.stays_late isLate⟩
      cases ask? with
      | none => rfl
      | some ask =>
          rw [opens.isLate_of_asks.2.1] at isLate
          cases isLate
  | failed found waits ended fails =>
      rw [placed] at found
      cases found
      cases opens with
      | acts unseated isLate asks => exact absurd rfl (unseated _)
      | leaves isLate => exact ⟨rfl, isLate⟩
      | waits seats waiting =>
          cases seats
          rw [ordered.remembers.waits waits waiting] at ended
          cases ended
      | told seats finished isLate gives =>
          cases seats
          obtain ⟨landed, also, same⟩ := ordered.remembers.told waits finished
          rw [ended] at also
          cases also
          rw [Cache.outcome_of_none fun ⟨list, _, brought⟩ => fails list brought] at same
          subst same
          exact ⟨Work.ask?_of_failed fails, isLate⟩

private theorem turn (silent : Silent session.core session.asked index)
    (ordered : Ordered session.core session.asked) (turn : Turn line session last) :
    Silent last.core last.asked index := by
  have never := silent.not_asked ordered
  cases turn with
  | rests core asked =>
      rw [core, asked]
      exact silent
  | called call own core asked =>
      rw [core, asked]
      cases silent with
      | late placed isLate never => exact .late (Core.job_add placed _) isLate never
      | failed placed waits ended fails =>
          exact .failed (Core.job_add placed _) waits ended fails
  | @goes taker also stage late opened ask? placed opens acts asked =>
      rw [asked]
      by_cases same : taker = index
      · subst same
        obtain ⟨rfl, isLate⟩ := silent.of_opens ordered placed opens
        exact .late (Ordered.job_self placed opens acts) isLate never
      · have others : ∀ ask, (index, ask) ∉ (ask?.map (taker, ·)).toList ++ session.asked := by
          intro ask member
          rcases List.mem_append.mp member with new | old
          · obtain ⟨other, _, also⟩ := Option.map_eq_some_iff.mp (Option.mem_toList.mp new)
            cases also
            exact same rfl
          · exact never ask old
        obtain ⟨moves, cache⟩ := opens.cache acts
        cases silent with
        | late found isLate _ => exact .late (Ordered.job_of_ne opens acts same found) isLate others
        | failed found waits ended fails =>
            have still := (ordered.reader_of_ne placed opens acts same found).trans waits
            refine .failed (Ordered.job_of_ne opens acts same found) still ?_ fails
            rw [cache]
            exact Cache.ended_run ended moves

/-- A task that is silent stays so, whatever happens. -/
theorem run (silent : Silent session.core session.asked index)
    (ordered : Ordered session.core session.asked) (line : Line Far Held)
    (happenings : List Happening) (ask : Ask) :
    (index, ask) ∉ (session.run line happenings).asked := by
  induction happenings generalizing session with
  | nil => exact silent.not_asked ordered ask
  | cons first rest ih =>
      have happens := turn_happen line session first
      exact ih (silent.turn ordered happens) (ordered.turn happens)

theorem of_awaited {core : Core Far Held} {reader flight : Nat} {ending : Ending Octets}
    (reads : core.reader? index = some reader) (awaits : core.cache.awaited? reader = some flight)
    (ended : core.cache.ending? flight = some ending) (fails : ∀ list, ending ≠ .value list)
    (asked : List (Nat × Ask)) : Silent core asked index := by
  have waits := Cache.awaited?_eq_some_iff.mp awaits
  obtain ⟨work, stage, placed, stands⟩ := Core.job_of_reader? reads
  cases stage with
  | queued =>
      cases stands
      exact absurd (List.getElem?_eq_some_iff.mp waits).1 (Nat.lt_irrefl _)
  | listing mine =>
      cases stands
      exact .failed placed waits ended fails
  | _ => cases stands

theorem of_told {ending : Ending Octets} (told : Told session.core last.core index ending)
    (ordered : Ordered session.core session.asked) (turn : Turn line session last)
    (fails : ∀ list, ending ≠ .value list) : Silent last.core last.asked index := by
  obtain ⟨⟨work, does⟩, never⟩ := told.before ordered
  obtain ⟨asked, stage, late, _, placed, isLate, _⟩ := ordered.of_told turn told does
  rw [Work.ask?_of_failed fails] at asked
  refine .late placed isLate ?_
  rw [asked]
  exact never

end Silent

end Scep.Session
