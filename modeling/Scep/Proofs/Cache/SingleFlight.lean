import Scep.Proofs.Cache.Basic

/-!
A cache that nobody closes has one fetch under way at most.

The fetch under way is the one that newcomers join, and once a fetch has brought
a list nobody needs another one.  Both are kept by every single move, whoever
makes it, so they hold in whatever order readers and fetches take their turns.
-/

namespace Scep.Cache

/-! ### Fetches that count -/

def Flight.isFruitful (flight : Flight) : Bool :=
  match flight.ending? with
  | some (.value (_ :: _)) => true
  | _ => false

/-- Whether a fetch is over and has brought no list: it failed, or the list was
empty. -/
def Flight.isFruitless (flight : Flight) : Bool :=
  flight.ending?.isSome && !flight.isFruitful

def isUnderWay (cache : Cache) (index : Nat) : Bool :=
  cache.flights[index]?.any fun flight => flight.ending?.isNone

theorem isUnderWay_iff {cache : Cache} {index : Nat} :
    cache.isUnderWay index = true ↔
      ∃ flight, cache.flights[index]? = some flight ∧ flight.ending? = none := by
  unfold isUnderWay
  cases cache.flights[index]? with
  | none => simp
  | some flight => simp

theorem land_brings (cache : Cache) (index : Nat) (ending : Ending Octets)
    (fruitful : (Flight.mk (.ended ending) false).isFruitful = true) :
    (cache.land index ending).stored ≠ [] := by
  cases ending with
  | value list =>
      cases list with
      | nil => cases fruitful
      | cons first rest =>
          change (cache.replace (first :: rest)).stored ≠ []
          rw [cache.replace_stored_of_ne (List.cons_ne_nil first rest)]
          exact List.cons_ne_nil first rest
  | failed raised => cases fruitful
  | cancelled => cases fruitful

/-! ### One fetch more, and one fetch changed -/

section Flights

variable {flights : List Flight} {index : Nat} {flight item : Flight} {change : Flight → Flight}

theorem mem_modify (placed : flights[index]? = some flight)
    (member : item ∈ flights.modify index change) : item = change flight ∨ item ∈ flights := by
  obtain ⟨place, found⟩ := List.mem_iff_getElem?.mp member
  by_cases same : index = place
  · subst same
    rw [List.getElem?_modify_eq, placed] at found
    exact Or.inl (Option.some.inj found).symm
  · rw [List.getElem?_modify_ne _ _ same] at found
    exact Or.inr (List.mem_of_getElem? found)

private theorem countP_isFruitless_modify (placed : flights[index]? = some flight)
    (before : flight.isFruitless = false) :
    flights.countP Flight.isFruitless ≤ (flights.modify index change).countP Flight.isFruitless := by
  obtain ⟨within, value⟩ := List.getElem?_eq_some_iff.mp placed
  obtain ⟨first, found, last, rfl, length, changed⟩ := List.exists_of_modify change within
  have same : found = flight := by
    rw [← value, List.getElem_append_right (Nat.le_of_eq length)]
    simp only [length, Nat.sub_self, List.getElem_cons_zero]
  rw [changed, same]
  simp only [List.countP_append, List.countP_cons, before, Bool.false_eq_true, if_false]
  omega

variable {cache other : Cache} {place : Nat}

theorem isUnderWay_of_ne (changed : other.flights = cache.flights.modify index change)
    (different : place ≠ index) : other.isUnderWay place = cache.isUnderWay place := by
  unfold isUnderWay
  rw [changed, List.getElem?_modify_ne _ _ (Ne.symm different)]

theorem isUnderWay_created (created : other.flights = cache.flights ++ [({} : Flight)]) :
    other.isUnderWay place = true ↔
      cache.isUnderWay place = true ∨ place = cache.flights.length := by
  rw [isUnderWay_iff, isUnderWay_iff, created]
  constructor
  · rintro ⟨flight, placed, ended⟩
    rcases Nat.lt_trichotomy place cache.flights.length with earlier | same | later
    · rw [List.getElem?_append_left earlier] at placed
      exact Or.inl ⟨flight, placed, ended⟩
    · exact Or.inr same
    · obtain ⟨within, _⟩ := List.getElem?_eq_some_iff.mp placed
      rw [List.length_append, List.length_singleton] at within
      omega
  · intro known
    rcases known with ⟨flight, placed, ended⟩ | last
    · obtain ⟨within, _⟩ := List.getElem?_eq_some_iff.mp placed
      exact ⟨flight, by rw [List.getElem?_append_left within]; exact placed, ended⟩
    · subst last
      exact ⟨{}, List.getElem?_concat_length, rfl⟩

end Flights

/-! ### What every move keeps -/

/-- What holds of a cache that nobody has closed. -/
structure Undisturbed (cache : Cache) : Prop where
  closers : cache.closers = []
  unstopped : ∀ flight ∈ cache.flights, flight.isStopping = false
  joined : ∀ index, cache.isUnderWay index = true ↔ cache.slot = some index
  kept : ∀ flight ∈ cache.flights, flight.isFruitful = true → cache.stored ≠ []
  counted : cache.flights.length ≤ 1 + cache.flights.countP Flight.isFruitless

namespace Undisturbed

private theorem start : Undisturbed {} where
  closers := rfl
  unstopped := by intro flight member; cases member
  joined := by intro index; simp [isUnderWay]
  kept := by intro flight member; cases member
  counted := by simp

variable {cache : Cache}

private theorem congr (holds : Undisturbed cache) {other : Cache}
    (closers : other.closers = cache.closers) (flights : other.flights = cache.flights)
    (slot : other.slot = cache.slot) (stored : cache.stored ≠ [] → other.stored ≠ []) :
    Undisturbed other where
  closers := closers.trans holds.closers
  unstopped := by rw [flights]; exact holds.unstopped
  joined := by
    intro index
    have same : other.isUnderWay index = cache.isUnderWay index := by
      unfold isUnderWay
      rw [flights]
    rw [same, slot]
    exact holds.joined index
  kept := by
    rw [flights]
    intro flight member fruitful
    exact stored (holds.kept flight member fruitful)
  counted := by rw [flights]; exact holds.counted

private theorem idle (holds : Undisturbed cache) {place : Nat}
    (elsewhere : cache.slot ≠ some place) :
    cache.isUnderWay place = false := by
  cases running : cache.isUnderWay place with
  | false => rfl
  | true => exact absurd ((holds.joined place).mp running) elsewhere

private theorem all_fruitless (holds : Undisturbed cache) (missing : cache.stored = [])
    (free : cache.slot = none) : ∀ flight ∈ cache.flights, flight.isFruitless = true := by
  intro flight member
  obtain ⟨index, placed⟩ := List.mem_iff_getElem?.mp member
  have unfruitful : flight.isFruitful = false := by
    cases fruitful : flight.isFruitful with
    | false => rfl
    | true => exact absurd missing (holds.kept flight member fruitful)
  have landed : flight.ending?.isSome = true := by
    cases ended : flight.ending? with
    | some ending => rfl
    | none =>
        have taken := (holds.joined index).mp (isUnderWay_iff.mpr ⟨flight, placed, ended⟩)
        rw [free] at taken
        cases taken
  simp only [Flight.isFruitless, landed, unfruitful, Bool.not_false, Bool.and_self]

private theorem create (holds : Undisturbed cache) (missing : cache.stored = [])
    (free : cache.slot = none) :
    Undisturbed { cache with
      slot := some cache.flights.length
      flights := cache.flights ++ [{}] } := by
  refine ⟨holds.closers, ?_, ?_, ?_, ?_⟩
  · intro flight member
    rcases List.mem_append.mp member with old | new
    · exact holds.unstopped flight old
    · rw [List.mem_singleton.mp new]
  · intro index
    have unused : cache.isUnderWay index = false := by
      apply holds.idle
      rw [free]
      intro same
      cases same
    rw [isUnderWay_created rfl, unused, Option.some.injEq]
    constructor
    · rintro (running | last)
      · cases running
      · exact last.symm
    · intro last
      exact Or.inr last.symm
  · intro flight member fruitful
    rcases List.mem_append.mp member with old | new
    · exact holds.kept flight old fruitful
    · rw [List.mem_singleton.mp new] at fruitful
      cases fruitful
  · have all : cache.flights.countP Flight.isFruitless = cache.flights.length :=
      List.countP_eq_length.mpr (holds.all_fruitless missing free)
    simp only [List.length_append, List.length_singleton, List.countP_append, all]
    omega

private theorem look (holds : Undisturbed cache) : Undisturbed cache.look.1 := by
  by_cases missing : cache.stored = []
  · cases taken : cache.slot with
    | some flight =>
        rw [look_joins missing taken]
        exact holds
    | none =>
        rw [look_creates missing taken]
        exact holds.create missing taken
  · rw [look_kept missing]
    exact holds

/-- A fetch that is under way may go on in any way, as long as the cache keeps
step with it: others stay as they are. -/
theorem progress (holds : Undisturbed cache) {index : Nat} (underWay : cache.slot = some index)
    {other : Cache} {phase : Phase} (closers : other.closers = cache.closers)
    (flights : other.flights =
      cache.flights.modify index fun flight => { flight with phase })
    (slot : other.slot = if (Flight.mk phase false).ending?.isSome then none else some index)
    (stored : cache.stored ≠ [] → other.stored ≠ [])
    (brought : (Flight.mk phase false).isFruitful = true → other.stored ≠ []) :
    Undisturbed other := by
  obtain ⟨flight, placed, ended⟩ := isUnderWay_iff.mp ((holds.joined index).mpr underWay)
  have unstopped := holds.unstopped flight (List.mem_of_getElem? placed)
  have fresh : ({ flight with phase } : Flight) = ⟨phase, false⟩ := by rw [← unstopped]
  have members : ∀ item ∈ other.flights, item = ⟨phase, false⟩ ∨ item ∈ cache.flights := by
    intro item member
    rw [flights] at member
    rcases mem_modify placed member with changed | old
    · exact Or.inl (changed.trans fresh)
    · exact Or.inr old
  refine ⟨closers.trans holds.closers, ?_, ?_, ?_, ?_⟩
  · intro item member
    rcases members item member with changed | old
    · rw [changed]
    · exact holds.unstopped item old
  · intro place
    by_cases same : place = index
    · subst same
      have placedNow : other.flights[place]? = some ⟨phase, false⟩ := by
        rw [flights, List.getElem?_modify_eq, placed, ← fresh]
        rfl
      rw [isUnderWay_iff, placedNow, slot]
      cases ending : (Flight.mk phase false).ending? with
      | none => simp [ending]
      | some outcome => simp [ending]
    · have unused : cache.isUnderWay place = false := by
        apply holds.idle
        rw [underWay]
        intro taken
        exact same (Option.some.inj taken).symm
      rw [isUnderWay_of_ne flights same, unused, slot]
      split
      · simp
      · simp [Ne.symm same]
  · intro item member fruitful
    rcases members item member with changed | old
    · rw [changed] at fruitful
      exact brought fruitful
    · exact stored (holds.kept item old fruitful)
  · have before : flight.isFruitless = false := by
      simp only [Flight.isFruitless, ended, Option.isSome_none, Bool.false_and]
    rw [flights, List.length_modify]
    exact Nat.le_trans holds.counted
      (Nat.add_le_add_left (countP_isFruitless_modify placed before) 1)

private theorem apply (holds : Undisturbed cache) {move : Move} (others : move ≠ .close) :
    Undisturbed (cache.apply move) := by
  cases move with
  | replace list =>
      exact holds.congr (cache.replace_closers list) (cache.replace_flights list)
        (cache.replace_slot list) (cache.replace_keeps list)
  | ask => exact holds.look.congr rfl rfl rfl id
  | resume index =>
      simp only [Cache.apply]
      split
      · rename_i ending _
        unfold settle
        split
        · exact holds.look.congr rfl rfl rfl id
        · exact holds.congr rfl rfl rfl id
      · exact holds
  | abandon index =>
      simp only [Cache.apply]
      split
      · exact holds.congr rfl rfl rfl id
      · exact holds
  | launch index =>
      simp only [Cache.apply]
      split
      · rename_i placed
        have taken := (holds.joined index).mp (isUnderWay_iff.mpr ⟨_, placed, rfl⟩)
        exact holds.progress taken rfl rfl taken id (by intro brought; cases brought)
      · rename_i placed
        have unstopped := holds.unstopped _ (List.mem_of_getElem? placed)
        cases unstopped
      · exact holds
  | land index ending =>
      simp only [Cache.apply]
      split
      · rename_i placed
        have taken := (holds.joined index).mp (isUnderWay_iff.mpr ⟨_, placed, rfl⟩)
        exact holds.progress taken (cache.land_closers index ending)
          (cache.land_flights index ending) rfl (cache.land_keeps index ending)
          (cache.land_brings index ending)
      · exact holds
  | close => exact absurd rfl others
  | closed index =>
      have nobody : cache.closing? index = none := by
        simp only [closing?, holds.closers, List.getElem?_nil]
      simp only [Cache.apply, nobody, Option.bind_none]
      exact holds
  | quit index =>
      have nobody : cache.closing? index = none := by
        simp only [closing?, holds.closers, List.getElem?_nil]
      simp only [Cache.apply, nobody]
      exact holds

private theorem run (holds : Undisturbed cache) (moves : List Move) (others : Move.close ∉ moves) :
    Undisturbed (cache.run moves) := by
  induction moves generalizing cache with
  | nil => exact holds
  | cons move rest ih =>
      rw [List.mem_cons, not_or] at others
      rw [run_cons]
      exact ih (holds.apply (Ne.symm others.1)) others.2

end Undisturbed

/-! ### Readers -/

variable {cache : Cache} {reader : Nat}

theorem awaited?_eq_some_iff {flight : Nat} :
    cache.awaited? reader = some flight ↔ cache.readers[reader]? = some (.waiting flight) := by
  unfold awaited?
  constructor
  · intro awaiting
    split at awaiting
    · rename_i found
      rw [found, Option.some.inj awaiting]
    · cases awaiting
  · intro found
    rw [found]

private theorem Undisturbed.resume_finishes (holds : Undisturbed cache) {ending : Ending Octets}
    (brought : (cache.awaited? reader).bind cache.ending? = some ending) :
    ∃ outcome, cache.apply (.resume reader) = cache.setReader reader (.finished outcome) := by
  simp only [Cache.apply, brought]
  unfold settle
  split
  · rename_i first rest
    obtain ⟨flight, _, ended⟩ := Option.bind_eq_some_iff.mp brought
    obtain ⟨landed, placed, landing⟩ := Option.bind_eq_some_iff.mp ended
    have fruitful : landed.isFruitful = true := by
      simp only [Flight.isFruitful, landing]
    have kept := holds.kept landed (List.mem_of_getElem? placed) fruitful
    rw [look_kept kept]
    exact ⟨_, rfl⟩
  · exact ⟨_, rfl⟩

private theorem Undisturbed.resume_settles (holds : Undisturbed cache) (reader : Nat) :
    cache.apply (.resume reader) = cache ∨
      ∃ outcome, cache.apply (.resume reader) = cache.setReader reader (.finished outcome) := by
  cases brought : (cache.awaited? reader).bind cache.ending? with
  | none =>
      left
      simp only [Cache.apply, brought]
  | some ending => exact Or.inr (holds.resume_finishes brought)

private theorem Undisturbed.readers_apply (holds : Undisturbed cache) (move : Move) :
    (∃ newcomers, (cache.apply move).readers = cache.readers ++ newcomers) ∨
      ∃ index outcome, (cache.apply move).readers = cache.readers.set index (.finished outcome) ∧
        (cache.awaited? index).isSome = true := by
  have unchanged : ∃ newcomers, cache.readers = cache.readers ++ newcomers :=
    ⟨[], (List.append_nil _).symm⟩
  cases part : move.isReaders with
  | false =>
      left
      rw [readers_of_apart part]
      exact unchanged
  | true =>
      cases move with
      | ask =>
          left
          refine ⟨[cache.look.2], ?_⟩
          rw [apply_ask]
      | resume index =>
          cases brought : (cache.awaited? index).bind cache.ending? with
          | none =>
              left
              simp only [Cache.apply, brought]
              exact unchanged
          | some ending =>
              right
              obtain ⟨outcome, settled⟩ := holds.resume_finishes brought
              obtain ⟨flight, awaiting, _⟩ := Option.bind_eq_some_iff.mp brought
              refine ⟨index, outcome, ?_, ?_⟩
              · rw [settled]
                rfl
              · rw [awaiting]
                rfl
      | abandon index =>
          simp only [Cache.apply]
          split
          · rename_i awaiting
            exact Or.inr ⟨index, .cancelled, rfl, by rw [awaiting]; rfl⟩
          · exact Or.inl unchanged
      | _ => cases part

private theorem Undisturbed.finished_apply (holds : Undisturbed cache) (move : Move)
    {outcome : Ending Octets} (done : cache.readers[reader]? = some (.finished outcome)) :
    (cache.apply move).readers[reader]? = some (.finished outcome) := by
  rcases holds.readers_apply move with ⟨newcomers, joined⟩ | ⟨index, other, left, awaiting⟩
  · obtain ⟨within, _⟩ := List.getElem?_eq_some_iff.mp done
    rw [joined, List.getElem?_append_left within]
    exact done
  · have different : index ≠ reader := by
      intro same
      subst same
      simp only [awaited?, done, Option.isSome_none, Bool.false_eq_true] at awaiting
    rw [left, List.getElem?_set_ne different]
    exact done

private theorem Undisturbed.awaiting_apply (holds : Undisturbed cache) (move : Move) {flight : Nat}
    (awaiting : cache.awaited? reader = some flight) :
    (cache.apply move).awaited? reader = some flight ∨
      ∃ outcome, (cache.apply move).readers[reader]? = some (.finished outcome) := by
  have waiting := awaited?_eq_some_iff.mp awaiting
  obtain ⟨within, _⟩ := List.getElem?_eq_some_iff.mp waiting
  rcases holds.readers_apply move with ⟨newcomers, joined⟩ | ⟨index, outcome, left, _⟩
  · left
    rw [awaited?_eq_some_iff, joined, List.getElem?_append_left within]
    exact waiting
  · by_cases same : index = reader
    · subst same
      right
      exact ⟨outcome, by rw [left, List.getElem?_set_self within]⟩
    · left
      rw [awaited?_eq_some_iff, left, List.getElem?_set_ne same]
      exact waiting

private theorem Undisturbed.finished_run (holds : Undisturbed cache) (moves : List Move)
    (others : Move.close ∉ moves) {outcome : Ending Octets}
    (done : cache.readers[reader]? = some (.finished outcome)) :
    (cache.run moves).readers[reader]? = some (.finished outcome) := by
  induction moves generalizing cache with
  | nil => exact done
  | cons move rest ih =>
      rw [List.mem_cons, not_or] at others
      rw [run_cons]
      exact ih (holds.apply (Ne.symm others.1)) others.2 (holds.finished_apply move done)

private theorem Undisturbed.awaiting_run (holds : Undisturbed cache) (moves : List Move)
    (others : Move.close ∉ moves) {flight : Nat}
    (awaiting : cache.awaited? reader = some flight) :
    (cache.run moves).awaited? reader = some flight ∨
      ∃ outcome, (cache.run moves).readers[reader]? = some (.finished outcome) := by
  induction moves generalizing cache with
  | nil => exact Or.inl awaiting
  | cons move rest ih =>
      rw [List.mem_cons, not_or] at others
      have later := holds.apply (Ne.symm others.1)
      rw [run_cons]
      rcases holds.awaiting_apply move awaiting with still | ⟨outcome, done⟩
      · exact ih later others.2 still
      · exact Or.inr ⟨outcome, later.finished_run rest others.2 done⟩

/-! ### New fetches -/

/-- Only a newcomer creates a fetch, and only where no list is kept and no fetch
is under way. -/
theorem Undisturbed.creates (holds : Undisturbed cache) (move : Move)
    (grown : cache.flights.length < (cache.apply move).flights.length) :
    move = .ask ∧ cache.stored = [] ∧ cache.slot = none ∧
      (cache.apply move).flights.length = cache.flights.length + 1 := by
  cases part : move.isReaders with
  | false =>
      rw [length_flights_of_apart part] at grown
      exact absurd grown (Nat.lt_irrefl _)
  | true =>
      cases move with
      | ask =>
          rw [apply_ask] at grown ⊢
          change _ < cache.look.1.flights.length at grown
          by_cases missing : cache.stored = []
          · cases taken : cache.slot with
            | some flight =>
                rw [look_joins missing taken] at grown
                exact absurd grown (Nat.lt_irrefl _)
            | none =>
                refine ⟨rfl, missing, rfl, ?_⟩
                rw [look_creates missing taken]
                simp only [List.length_append, List.length_singleton]
          · rw [look_kept missing] at grown
            exact absurd grown (Nat.lt_irrefl _)
      | resume index =>
          rcases holds.resume_settles index with same | ⟨outcome, same⟩
          · rw [same] at grown
            exact absurd grown (Nat.lt_irrefl _)
          · rw [same] at grown
            exact absurd grown (Nat.lt_irrefl _)
      | abandon index =>
          simp only [Cache.apply] at grown
          split at grown <;> exact absurd grown (Nat.lt_irrefl _)
      | _ => cases part

/-! ### Single flight -/

/-- As long as nobody closes a cache, at most one fetch is under way, and it is
the one that newcomers join; a fetch is created by a newcomer only, where no
list is kept and no fetch is under way; a reader waits for one fetch and is done
once that is over, for good; and all fetches but one were fruitless. -/
theorem single_flight (moves : List Move) (neverClosed : Move.close ∉ moves) :
    let cache := ({} : Cache).run moves
    (∀ index, cache.isUnderWay index = true ↔ cache.slot = some index) ∧
      (∀ move, cache.flights.length < (cache.apply move).flights.length →
        move = .ask ∧ cache.stored = [] ∧ (∀ index, cache.isUnderWay index = false) ∧
          (cache.apply move).flights.length = cache.flights.length + 1) ∧
      (∀ reader flight, cache.awaited? reader = some flight →
        (∀ later, Move.close ∉ later →
          (cache.run later).awaited? reader = some flight ∨
            ∃ outcome, (cache.run later).readers[reader]? = some (.finished outcome)) ∧
        ((cache.ending? flight).isSome = true →
          ∃ outcome, (cache.apply (.resume reader)).readers[reader]? =
            some (.finished outcome))) ∧
      (∀ (reader : Nat) (outcome : Ending Octets),
        cache.readers[reader]? = some (.finished outcome) → ∀ later, Move.close ∉ later →
          (cache.run later).readers[reader]? = some (.finished outcome)) ∧
      cache.flights.length ≤ 1 + cache.flights.countP Flight.isFruitless := by
  intro cache
  have holds : Undisturbed cache := Undisturbed.start.run moves neverClosed
  refine ⟨holds.joined, ?_, ?_, ?_, holds.counted⟩
  · intro move grown
    obtain ⟨asks, missing, free, one⟩ := holds.creates move grown
    refine ⟨asks, missing, ?_, one⟩
    intro index
    apply holds.idle
    rw [free]
    intro same
    cases same
  · intro reader flight awaiting
    refine ⟨fun later others => holds.awaiting_run later others awaiting, ?_⟩
    intro hasEnded
    obtain ⟨ending, ended⟩ := Option.isSome_iff_exists.mp hasEnded
    have resumed : (cache.awaited? reader).bind cache.ending? = some ending := by
      rw [awaiting]
      exact ended
    obtain ⟨outcome, settled⟩ := holds.resume_finishes resumed
    obtain ⟨within, _⟩ := List.getElem?_eq_some_iff.mp (awaited?_eq_some_iff.mp awaiting)
    refine ⟨outcome, ?_⟩
    rw [settled]
    exact List.getElem?_set_self within
  · intro reader outcome done later others
    exact holds.finished_run later others done

/-- Two readers share a fetch that fails after one of them has left; a third one
needs another fetch, which brings a list. -/
theorem single_flight_after_failure :
    let moves : List Move :=
      [.ask, .ask, .abandon 0, .launch 0, .land 0 (.failed ⟨.plain .runtime "", none⟩), .ask,
        .replace [], .resume 1, .launch 1, .land 1 (.value [65])]
    let cache := ({} : Cache).run moves
    Move.close ∉ moves ∧
      (cache.isUnderWay 1 = true ↔ cache.slot = some 1) ∧
      cache.awaited? 2 = some 1 ∧
      (∃ outcome, (cache.apply (.resume 2)).readers[2]? = some (.finished outcome)) ∧
      cache.flights.length ≤ 1 + cache.flights.countP Flight.isFruitless := by
  intro moves cache
  have others : Move.close ∉ moves := by decide
  have awaiting : cache.awaited? 2 = some 1 := by decide
  obtain ⟨joined, _, readers, _, counted⟩ := single_flight moves others
  exact ⟨others, joined 1, awaiting, (readers 2 1 awaiting).2 (by decide), counted⟩

end Scep.Cache
