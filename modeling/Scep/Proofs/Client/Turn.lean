import Scep.Proofs.Cache.Reader
import Scep.Proofs.Client.Step

/-!
What one happening does to the tasks of a session.

At most one task takes a turn.  Until it has the capability list a task is in
line or reads the cache, and nothing that it does is heard by the other end; the
turn in which it is told the list, or that there is none, is also the one in which
it asks.
-/

namespace Scep

inductive Line.Conveys {Far Held : Type} (line : Line Far Held) : Option Ask → Far → Far → Prop where
  | silent (far : Far) : Conveys line none far far
  | sent (ask : Ask) (far : Far) : Conveys line (some ask) far (line.start ask far).1
  | heard {ask? : Option Ask} {far before : Far} (held : Held)
    (conveys : Conveys line ask? far before) :
    Conveys line ask? far (line.finish held before).1

namespace Session

variable {Far Held : Type}

/-! ### Turns -/

/-- Whether a task has done with the capability list. -/
def Stage.isLate : Stage Held → Bool
  | .queued | .listing _ => false
  | _ => true

/-- What a task that has read the cache asks of the other end. -/
def Work.ask? (work : Work) : Ending Octets → Option Ask
  | .value list =>
    match work with
    | .call (.enroll message) _ => some ⟨methodFor list, ⟨some .pkiOperation, message⟩⟩
    | _ => none
  | _ => none

def Work.reading (work : Work) (list : Octets) : Result :=
  match work with
  | .call (.supports capability) _ => .truth (Cache.advertises list capability)
  | _ => .octets list

/-- One task comes to another stage, and nothing else happens that the other end or
a reader of the cache could notice. -/
structure Settles (core next : Core Far Held) (index : Nat) (stage : Stage Held) : Prop where
  far : next.far = core.far
  jobs : next.jobs = (core.pause index stage).jobs
  cache : ∃ moves, (∀ move ∈ moves, Cache.Move.isReaders move = false) ∧
    next.cache = core.cache.run moves

/-- One task comes to another stage, and the other end hears what it asks, if it
asks for something. -/
def Acts (line : Line Far Held) (core next : Core Far Held) (index : Nat) (stage : Stage Held)
    (ask? : Option Ask) : Prop :=
  ∃ far, line.Conveys ask? core.far far ∧ Settles { core with far } next index stage

inductive Seats (core : Core Far Held) : Stage Held → Core Far Held → Nat → Prop where
  | newcomer : Seats core .queued (core.move .ask) core.cache.readers.length
  | seated (reader : Nat) : Seats core (.listing reader) core reader

/-- What a task does to the cache before it acts, where it comes to stand, and what
it asks. -/
inductive Opens (core : Core Far Held) (work : Work) :
    Stage Held → Core Far Held → Stage Held → Option Ask → Prop where
  | acts {stage late : Stage Held} {ask? : Option Ask}
    (unseated : ∀ reader, stage ≠ .listing reader) (isLate : late.isLate = true)
    (asks : ∀ ask, ask? = some ask →
      stage = .queued ∧ work.Asks ask ∧ ∀ message own, work ≠ .call (.enroll message) own) :
    Opens core work stage core late ask?
  | leaves {reader : Nat} {late : Stage Held} (isLate : late.isLate = true) :
    Opens core work (.listing reader) (core.move (.abandon reader)) late none
  | waits {stage : Stage Held} {seated : Core Far Held} {reader flight : Nat}
    (seats : Seats core stage seated reader)
    (waiting : (seated.cache.apply (.resume reader)).readers[reader]? = some (.waiting flight)) :
    Opens core work stage (seated.move (.resume reader)) (.listing reader) none
  | told {stage late : Stage Held} {seated : Core Far Held} {reader : Nat} {ending : Ending Octets}
    (seats : Seats core stage seated reader)
    (finished : (seated.cache.apply (.resume reader)).readers[reader]? = some (.finished ending))
    (isLate : late.isLate = true)
    (gives : ∀ list, ending = .value list → work.ask? ending = none →
      late = .ended (.value (work.reading list))) :
    Opens core work stage (seated.move (.resume reader)) late (work.ask? ending)

/-- What a happening may be. -/
inductive Turn (line : Line Far Held) (session next : Session Far Held) : Prop where
  | rests (core : next.core = session.core) (asked : next.asked = session.asked)
  | called (call : Call) (own : Option Deadline)
    (core : next.core = session.core.add (.call call own)) (asked : next.asked = session.asked)
  | goes {index : Nat} {work : Work} {stage late : Stage Held} {opened : Core Far Held}
    {ask? : Option Ask} (placed : session.core.jobs[index]? = some (work, stage))
    (opens : Opens session.core work stage opened late ask?)
    (acts : Acts line opened next.core index late ask?)
    (asked : next.asked = (ask?.map (index, ·)).toList ++ session.asked)

private theorem Turn.of_core {line : Line Far Held} {session before next : Session Far Held}
    (turn : Turn line before next) (core : before.core = session.core)
    (asked : before.asked = session.asked) : Turn line session next := by
  cases turn with
  | rests same also => exact .rests (same.trans core) (also.trans asked)
  | called call own same also =>
      rw [core] at same
      exact .called call own same (also.trans asked)
  | goes placed opens acts also =>
      rw [core] at placed opens
      rw [asked] at also
      exact .goes placed opens acts also

/-! ### Tasks that settle -/

private theorem Core.move_of_apart (core : Core Far Held) {move : Cache.Move}
    (apart : move.isReaders = false) :
    core.move move = { core with cache := core.cache.apply move } := by
  have same : (core.cache.apply move).flights.length = core.cache.flights.length :=
    Cache.length_flights_of_apart apart
  unfold Core.move
  dsimp only
  rw [if_neg (by omega)]

namespace Settles

variable {core next : Core Far Held} {index : Nat} {stage : Stage Held}

private theorem pause (core : Core Far Held) (index : Nat) (stage : Stage Held) :
    Settles core (core.pause index stage) index stage :=
  ⟨rfl, rfl, [], fun _ member => absurd member List.not_mem_nil, rfl⟩

private theorem of_move (move : Cache.Move) (apart : move.isReaders = false)
    (settles : Settles (core.move move) next index stage) : Settles core next index stage := by
  rw [core.move_of_apart apart] at settles
  refine ⟨settles.far, settles.jobs, ?_⟩
  obtain ⟨moves, others, same⟩ := settles.cache
  refine ⟨move :: moves, ?_, same⟩
  intro other member
  rcases List.mem_cons.mp member with first | later
  · rw [first]
    exact apart
  · exact others other later

private theorem conclude (core : Core Far Held) (index : Nat) (work : Work)
    (ending : Ending Result) :
    Settles core (core.conclude index work ending) index (.ended ending) := by
  cases work with
  | call call own => exact pause core index (.ended ending)
  | flight number =>
      rw [Core.conclude, Core.move_of_apart _ rfl]
      refine ⟨rfl, rfl, [.land number (landing ending)], ?_, rfl⟩
      intro move member
      rw [List.mem_singleton.mp member]
      rfl

private theorem deliver (core : Core Far Held) (index : Nat) (work : Work) (response : Response) :
    ∃ ending, Settles core (core.deliver index work response) index (.ended ending) := by
  unfold Core.deliver
  split
  · exact ⟨_, conclude core index work _⟩
  · split
    · exact ⟨_, of_move (.replace response.data) rfl (conclude _ index _ _)⟩
    · exact ⟨_, conclude core index _ _⟩
    · exact ⟨_, conclude core index _ _⟩

end Settles

/-! ### Tasks that act -/

variable {line : Line Far Held} {session before next : Session Far Held} {index : Nat}
  {work : Work} {stage : Stage Held} {ask? : Option Ask}

private theorem Acts.of_settles {core next : Core Far Held}
    (settles : Settles core next index stage) :
    Acts line core next index stage none :=
  ⟨core.far, .silent core.far, settles⟩

private theorem Acts.of_move {core next : Core Far Held} (move : Cache.Move)
    (apart : move.isReaders = false) (acts : Acts line (core.move move) next index stage ask?) :
    Acts line core next index stage ask? := by
  obtain ⟨far, conveys, settles⟩ := acts
  rw [core.far_move] at conveys
  refine ⟨far, conveys, Settles.of_move move apart ?_⟩
  rw [core.move_of_apart apart] at settles
  rw [Core.move_of_apart _ apart]
  exact settles

/-- A task acts and has then done with the capability list. -/
structure Ends (line : Line Far Held) (session next : Session Far Held) (index : Nat)
    (ask? : Option Ask) : Prop where
  asked : next.asked = (ask?.map (index, ·)).toList ++ session.asked
  acts : ∃ late, Stage.isLate late = true ∧ Acts line session.core next.core index late ask?

namespace Ends

private theorem of_core (ends : Ends line before next index ask?)
    (core : before.core = session.core)
    (asked : before.asked = session.asked) : Ends line session next index ask? := by
  obtain ⟨also, acts⟩ := ends
  rw [core] at acts
  rw [asked] at also
  exact ⟨also, acts⟩

private theorem of_move (move : Cache.Move) (apart : move.isReaders = false)
    (ends : Ends line (session.move move) next index ask?) : Ends line session next index ask? := by
  obtain ⟨asked, late, isLate, acts⟩ := ends
  rw [(session.kept_move move).asked] at asked
  rw [core_move] at acts
  exact ⟨asked, late, isLate, acts.of_move move apart⟩

private theorem conclude (session : Session Far Held) (line : Line Far Held) (index : Nat)
    (work : Work) (ending : Ending Result) :
    Ends line session (session.conclude index work ending) index none := by
  refine ⟨(session.kept_conclude index work ending).asked, .ended ending, rfl, ?_⟩
  rw [core_conclude]
  exact .of_settles (Settles.conclude session.core index work ending)

private theorem fail (session : Session Far Held) (line : Line Far Held) (index : Nat) (work : Work)
    (raised : Raised) : Ends line session (session.fail line index work raised) index none :=
  conclude session line index work _

private theorem finish_core {far : Far} (conveys : line.Conveys ask? far session.far) (index : Nat)
    (work : Work) (held : Held) :
    ∃ late, Stage.isLate late = true ∧ Acts line { session.core with far }
      (session.finish line index work held).core index late ask? := by
  have heard := Line.Conveys.heard held conveys
  unfold Session.finish
  dsimp only
  split
  · rw [core_fail]
    exact ⟨.ended _, rfl, _, heard, Settles.conclude _ index work _⟩
  · rw [core_deliver]
    obtain ⟨ending, settles⟩ :=
      Settles.deliver { session.core with far := (line.finish held session.far).1 } index work _
    exact ⟨.ended ending, rfl, _, heard, settles⟩

private theorem finish (session : Session Far Held) (line : Line Far Held) (index : Nat)
    (work : Work)
    (held : Held) : Ends line session (session.finish line index work held) index none :=
  ⟨(session.kept_finish index line work held).asked,
    finish_core (.silent session.far) index work held⟩

private theorem exchange (session : Session Far Held) (line : Line Far Held) (index : Nat)
    (work : Work)
    (ask : Ask) : Ends line session (session.exchange line index work ask) index (some ask) := by
  rcases started : line.start ask session.far with ⟨far, records, outcome⟩
  let sent : Session Far Held :=
    { session with far, asked := (index, ask) :: session.asked }.record records
  have conveys : line.Conveys (some ask) session.far sent.far := by
    have reaches : line.Conveys (some ask) session.far (line.start ask session.far).1 :=
      .sent ask session.far
    rw [started] at reaches
    exact reaches
  have answered : ∀ held, Ends line session (sent.finish line index work held) index (some ask) :=
    fun held => ⟨(sent.kept_finish index line work held).asked, finish_core conveys index work held⟩
  have waits : ∀ (held : Held) (last : Session Far Held),
      last.core = (sent.pause index (.sending held)).core → last.asked = sent.asked →
      Ends line session last index (some ask) := by
    intro held last core asked
    refine ⟨asked, .sending held, rfl, far, conveys, ?_⟩
    rw [core, core_pause]
    exact Settles.pause _ index _
  cases outcome with
  | error raised =>
      have settles := Settles.conclude sent.core index work
        (.failed (work.told line sent.deadline raised))
      rw [← core_fail] at settles
      simp only [Session.exchange, started]
      exact ⟨(sent.kept_fail index line work raised).asked, .ended _, rfl, far, conveys, settles⟩
  | ok outcome =>
      obtain ⟨wait, held⟩ := outcome
      simp only [Session.exchange, started]
      cases wait with
      | ready => exact answered held
      | turn => exact waits held _ (core_rouse _ index) (kept_rouse _ index).asked
      | forever => exact waits held _ rfl rfl
      | gate name =>
          dsimp only
          split
          · exact answered held
          · exact waits held _ rfl rfl

private theorem shut (session : Session Far Held) (line : Line Far Held) (index : Nat) (work : Work)
    (closer : Nat) : Ends line session (session.shut index work closer) index none :=
  of_move (.closed closer) rfl (conclude _ line index work (.value .nothing))

private theorem shutDown (session : Session Far Held) (line : Line Far Held) (index : Nat)
    (work : Work) :
    Ends line session (session.shutDown index work) index none := by
  have waits : ∀ (stopped : Session Far Held) (flight : Nat),
      stopped.core = (session.move .close).core → stopped.asked = (session.move .close).asked →
      Ends line session
        ((stopped.pause index (.closing session.cache.closers.length)).watch index flight)
        index none := by
    intro stopped flight core asked
    refine of_move .close rfl (of_core ?_ core asked)
    refine ⟨(kept_watch _ index flight).asked, .closing session.cache.closers.length, rfl, ?_⟩
    rw [core_watch, core_pause]
    exact .of_settles (Settles.pause _ index _)
  unfold Session.shutDown
  dsimp only
  split
  · exact of_move .close rfl (conclude _ line index work (.value .nothing))
  · split
    · exact waits _ _ (core_cancel _ _) (kept_cancel _ _).asked
    · exact waits _ _ rfl rfl

private theorem give_up (session : Session Far Held) (line : Line Far Held) (index : Nat)
    (task : Task Held) :
    Ends line session
      (if task.isCancelled then session.conclude index task.work .cancelled
        else session.fail line index task.work ⟨.plain .timeout "", none⟩) index none := by
  split
  · exact conclude session line index task.work .cancelled
  · exact fail session line index task.work ⟨.plain .timeout "", none⟩

end Ends

/-! ### Tasks that read the cache -/

private theorem listed_value {list : Octets} (silent : work.ask? (.value list) = none) :
    session.listed line index work (.value list) =
      session.conclude index work (.value (work.reading list)) := by
  cases work with
  | flight number => rfl
  | call call own =>
      cases call with
      | enroll message => cases silent
      | _ => rfl

private theorem ends_listed (session : Session Far Held) (line : Line Far Held) (index : Nat)
    (work : Work) (ending : Ending Octets) :
    Ends line session (session.listed line index work ending) index (work.ask? ending) := by
  cases ending with
  | cancelled => exact Ends.conclude session line index work .cancelled
  | failed raised => exact Ends.fail session line index work raised
  | value list =>
      cases asks : work.ask? (.value list) with
      | none =>
          rw [listed_value asks]
          exact Ends.conclude session line index work _
      | some ask =>
          unfold Work.ask? at asks
          dsimp only at asks
          split at asks
          · rename_i message own
            cases asks
            let selected : Audit.Event :=
              .transportSelected Operation.pkiOperation.name (methodFor list).name
            exact (Ends.exchange (session.record [{ event := selected }]) line index _ _).of_core
              rfl rfl
          · cases asks

private theorem acts_listed (session : Session Far Held) (line : Line Far Held) (index : Nat)
    (work : Work) (ending : Ending Octets) :
    ∃ late, Stage.isLate late = true ∧
      Acts line session.core (session.listed line index work ending).core index late
        (work.ask? ending) ∧
      ∀ list, ending = .value list → work.ask? ending = none →
        late = .ended (.value (work.reading list)) := by
  by_cases silent : ∃ list, ending = .value list ∧ work.ask? ending = none
  · obtain ⟨list, rfl, silent⟩ := silent
    rw [silent, listed_value silent, core_conclude]
    refine ⟨.ended _, rfl, .of_settles (Settles.conclude session.core index work _), ?_⟩
    intro other same _
    cases same
    rfl
  · obtain ⟨_, late, isLate, acts⟩ := ends_listed session line index work ending
    exact ⟨late, isLate, acts, fun list same none => absurd ⟨list, same, none⟩ silent⟩

private theorem Seats.absent {core seated : Core Far Held} {reader : Nat}
    (seats : Seats core stage seated reader)
    (absent : (seated.cache.apply (.resume reader)).readers[reader]? = none) :
    seated.move (.resume reader) = core := by
  have same := Cache.apply_resume_of_absent absent
  cases seats with
  | newcomer =>
      rw [same, Core.cache_move, Cache.newcomer_ask] at absent
      cases absent
  | seated =>
      unfold Core.move
      dsimp only
      rw [same, if_neg (Nat.lt_irrefl _)]

private theorem turn_read {seated : Session Far Held} {reader : Nat}
    (placed : session.core.jobs[index]? = some (work, stage))
    (seats : Seats session.core stage seated.core reader) (asked : seated.asked = session.asked) :
    Turn line session (seated.read line index work reader) := by
  have moved := seated.core_move (.resume reader)
  have cache : (seated.move (.resume reader)).cache = seated.core.cache.apply (.resume reader) :=
    (congrArg Core.cache moved).trans (Core.cache_move _ _)
  have also := (seated.kept_move (.resume reader)).asked.trans asked
  unfold read
  dsimp only
  split
  · rename_i ending finished
    rw [cache] at finished
    obtain ⟨late, isLate, acts, gives⟩ :=
      acts_listed (seated.move (.resume reader)) line index work ending
    have asks := (ends_listed (seated.move (.resume reader)) line index work ending).asked
    rw [moved] at acts
    rw [also] at asks
    exact .goes placed (.told seats finished isLate gives) acts asks
  · rename_i flight waiting
    rw [cache] at waiting
    refine .goes placed (.waits seats waiting) (.of_settles ?_) ?_
    · rw [core_watch, core_pause, moved]
      exact Settles.pause _ index _
    · exact (kept_watch _ index flight).asked.trans also
  · rename_i absent
    rw [cache] at absent
    exact .rests (moved.trans (seats.absent absent)) also

/-! ### Entries of the queue -/

private theorem Turn.of_ends (placed : session.core.jobs[index]? = some (work, stage))
    (unseated : ∀ reader, stage ≠ .listing reader) (ends : Ends line session next index ask?)
    (asks : ∀ ask, ask? = some ask →
      stage = .queued ∧ work.Asks ask ∧ ∀ message own, work ≠ .call (.enroll message) own) :
    Turn line session next := by
  obtain ⟨asked, late, isLate, acts⟩ := ends
  exact .goes placed (.acts unseated isLate asks) acts asked

private theorem Turn.of_silence (placed : session.core.jobs[index]? = some (work, stage))
    (unseated : ∀ reader, stage ≠ .listing reader) (ends : Ends line session next index none) :
    Turn line session next :=
  .of_ends placed unseated ends fun _ same => by cases same

private theorem turn_unwind {task : Task Held} (found : session.tasks[index]? = some task) :
    Turn line session (session.unwind line index task) := by
  have placed := session.core_job index found
  unfold unwind
  cases stage : task.stage with
  | listing reader =>
      rw [stage] at placed
      obtain ⟨asked, late, isLate, acts⟩ :=
        Ends.give_up (session.move (.abandon reader)) line index task
      rw [core_move] at acts
      exact .goes placed (.leaves isLate) acts (asked.trans (session.kept_move _).asked)
  | closing closer =>
      rw [stage] at placed
      exact .of_silence placed (fun _ same => by cases same)
        (.of_move (.quit closer) rfl (Ends.give_up _ line index task))
  | _ =>
      rw [stage] at placed
      exact .of_silence placed (fun _ same => by cases same) (Ends.give_up session line index task)

private theorem turn_beginTask {task : Task Held} (found : session.tasks[index]? = some task)
    (queued : task.stage = .queued) : Turn line session (session.beginTask line index task) := by
  have placed := session.core_job index found
  rw [queued] at placed
  have begins : ∀ {ask : Ask} {next : Session Far Held},
      Ends line session next index (some ask) → task.work.Asks ask →
      (∀ message own, task.work ≠ .call (.enroll message) own) → Turn line session next := by
    intro ask next ends asks others
    refine .of_ends placed (fun _ same => by cases same) ends fun other same => ?_
    cases same
    exact ⟨rfl, asks, others⟩
  have quits : ∀ {next : Session Far Held}, Ends line session next index none →
      Turn line session next :=
    .of_silence placed fun _ same => by cases same
  cases work : task.work with
  | flight number =>
      rw [work] at begins
      simp only [beginTask, work]
      split
      · refine quits (.of_move (.launch number) rfl ⟨rfl, .ended .cancelled, rfl, ?_⟩)
        change Acts line _ ((session.move (.launch number)).pause index (.ended .cancelled)).core
          index _ none
        rw [core_pause]
        exact .of_settles (Settles.pause _ index _)
      · refine begins (.of_move (.launch number) rfl ?_) (.flight number)
          fun _ _ same => by cases same
        exact (Ends.exchange _ line index _ _).of_core (core_limit _ index _)
          (kept_limit _ index _).asked
  | call call own =>
      rw [work] at placed begins
      have core := session.core_limit index (.call call own)
      have asked := (session.kept_limit index (.call call own)).asked
      have reads : Turn line session (((session.limit index (.call call own)).move .ask).read line
          index (.call call own) (session.limit index (.call call own)).cache.readers.length) := by
        refine turn_read placed ?_ ((kept_move _ .ask).asked.trans asked)
        have same : (session.limit index (.call call own)).cache = session.core.cache :=
          congrArg Core.cache core
        rw [core_move, core, same]
        exact .newcomer
      have asks : ∀ ask, Ends line session
          ((session.limit index (.call call own)).exchange line index (.call call own) ask) index
          (some ask) :=
        fun ask => (Ends.exchange _ line index _ ask).of_core core asked
      simp only [beginTask, work]
      split
      · exact quits (Ends.conclude session line index _ .cancelled)
      · cases call with
        | list => exact reads
        | supports capability => exact reads
        | enroll message => exact reads
        | capabilities => exact begins (asks _) (.capabilities own) fun _ _ same => by cases same
        | certificate => exact begins (asks _) (.certificate own) fun _ _ same => by cases same
        | nextCertificate =>
            exact begins (asks _) (.nextCertificate own) fun _ _ same => by cases same
        | close => exact quits ((Ends.shutDown _ line index _).of_core core asked)

private theorem turn_goOn {task : Task Held} (found : session.tasks[index]? = some task) :
    Turn line session (session.goOn line index task) := by
  have placed := session.core_job index found
  unfold goOn
  split
  · exact turn_unwind found
  · cases stage : task.stage with
    | queued => exact .rests rfl rfl
    | ended ending => exact .rests rfl rfl
    | listing reader =>
        rw [stage] at placed
        exact turn_read placed (.seated reader) rfl
    | sending held =>
        rw [stage] at placed
        exact .of_silence placed (fun _ same => by cases same)
          (Ends.finish session line index task.work held)
    | closing closer =>
        rw [stage] at placed
        exact .of_silence placed (fun _ same => by cases same)
          (Ends.shut session line index task.work closer)

theorem turn_happen (line : Line Far Held) (session : Session Far Held) (happening : Happening) :
    Turn line session (session.happen line happening) := by
  cases occurs_happen line session happening with
  | rests core kept => exact .rests core kept.asked
  | called call own core kept => exact .called call own core kept.asked
  | begins core kept found queued same =>
      rw [same]
      exact (turn_beginTask found queued).of_core core kept.asked
  | goesOn core kept found same =>
      rw [same]
      exact (turn_goOn found).of_core core kept.asked

end Session

end Scep
