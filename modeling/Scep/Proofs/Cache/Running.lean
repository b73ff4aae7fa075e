import Scep.Proofs.Cache.Change

/-!
What moves do to a fetch that is running.

A running fetch goes on running until it ends itself, whoever reads, closes or
puts a list into the cache meanwhile, and only a newcomer adds a fetch.
-/

namespace Scep.Cache

def IsRunning (cache : Cache) (flight : Nat) : Prop :=
  ∃ stopping, cache.flights[flight]? = some ⟨.running, stopping⟩

variable {cache other : Cache} {flight : Nat}

private theorem IsRunning.congr (running : cache.IsRunning flight)
    (flights : other.flights = cache.flights) : other.IsRunning flight := by
  unfold IsRunning
  rw [flights]
  exact running

private theorem IsRunning.lt_length (running : cache.IsRunning flight) :
    flight < cache.flights.length := by
  obtain ⟨stopping, placed⟩ := running
  exact (List.getElem?_eq_some_iff.mp placed).1

private theorem IsRunning.modify_of_ne (running : cache.IsRunning flight) {index : Nat}
    {change : Flight → Flight} (flights : other.flights = cache.flights.modify index change)
    (different : index ≠ flight) : other.IsRunning flight := by
  unfold IsRunning
  rw [flights, List.getElem?_modify_ne _ _ different]
  exact running

private theorem IsRunning.modify {index : Nat} {change : Flight → Flight}
    (running : cache.IsRunning flight) (flights : other.flights = cache.flights.modify index change)
    (goesOn : ∀ before, before.phase = .running → (change before).phase = .running) :
    other.IsRunning flight := by
  by_cases same : index = flight
  · subst same
    obtain ⟨stopping, placed⟩ := running
    have runs := goesOn ⟨.running, stopping⟩ rfl
    refine ⟨(change ⟨.running, stopping⟩).isStopping, ?_⟩
    rw [flights, List.getElem?_modify_eq, placed]
    exact congrArg (fun phase => some (Flight.mk phase (change ⟨.running, stopping⟩).isStopping)) runs
  · exact running.modify_of_ne flights same

theorem IsRunning.apply (running : cache.IsRunning flight) {move : Move}
    (goesOn : ∀ ending, move ≠ .land flight ending) : (cache.apply move).IsRunning flight := by
  have change := cache.change_apply move
  generalize cache.apply move = next at change ⊢
  cases change with
  | same stored slot flights => exact running.congr flights
  | put given => exact running.congr rfl
  | created missing free stored slot flights =>
      have within := running.lt_length
      obtain ⟨stopping, placed⟩ := running
      refine ⟨stopping, ?_⟩
      rw [flights, List.getElem?_append_left within]
      exact placed
  | launched placed => exact running.modify rfl fun _ _ => rfl
  | @skipped index placed =>
      refine running.modify_of_ne rfl ?_
      intro same
      subst same
      obtain ⟨stopping, also⟩ := running
      rw [placed] at also
      cases also
  | @landed index ending stopping placed =>
      refine running.modify_of_ne (cache.land_flights index ending) ?_
      intro same
      exact goesOn ending (by rw [same])
  | stopped taken stored slot flights => exact running.modify flights fun _ same => same
  | freed resumed stored slot flights => exact running.congr flights

theorem length_flights_apply (cache : Cache) (move : Move) :
    (cache.apply move).flights.length = cache.flights.length ∨
      (cache.apply move).flights.length = cache.flights.length + 1 := by
  have change := cache.change_apply move
  generalize cache.apply move = next at change ⊢
  cases change with
  | same stored slot flights => exact Or.inl (congrArg List.length flights)
  | put given => exact Or.inl rfl
  | created missing free stored slot flights =>
      right
      rw [flights, List.length_append]
      rfl
  | launched placed => exact Or.inl (List.length_modify _ _ _)
  | skipped placed => exact Or.inl (List.length_modify _ _ _)
  | landed placed =>
      left
      rw [land_flights, List.length_modify]
  | stopped taken stored slot flights =>
      left
      rw [flights, List.length_modify]
  | freed resumed stored slot flights => exact Or.inl (congrArg List.length flights)

def Move.list? : Move → Option Octets
  | .replace list | .land _ (.value list) => some list
  | _ => none

/-- Whether a move neither brings a list nor ends a fetch. -/
def Move.isIdle : Move → Bool
  | .replace _ | .land _ _ => false
  | _ => true

/-- Only a list that is not empty and that a move brings changes what is
kept. -/
theorem stored_apply {move : Move} (empty : ∀ list, move.list? = some list → list = []) :
    (cache.apply move).stored = cache.stored := by
  have change := cache.change_apply move
  generalize cache.apply move = next at change ⊢
  cases change with
  | same stored slot flights => exact stored
  | put given => exact absurd (empty _ rfl) given
  | created missing free stored slot flights => exact stored.trans missing.symm
  | launched placed => rfl
  | skipped placed => rfl
  | @landed index ending stopping placed =>
      cases ending with
      | value list =>
          rw [empty list rfl]
          rfl
      | failed raised => rfl
      | cancelled => rfl
  | stopped taken stored slot flights => exact stored
  | freed resumed stored slot flights => exact stored

theorem stored_apply_of_isIdle {move : Move} (idle : move.isIdle = true) :
    (cache.apply move).stored = cache.stored := by
  refine stored_apply ?_
  intro list given
  cases move with
  | replace other => cases idle
  | land number ending => cases idle
  | _ => cases given

theorem stored_land (running : cache.IsRunning flight) {list : Octets} (given : list ≠ []) :
    (cache.apply (.land flight (.value list))).stored = list := by
  obtain ⟨stopping, placed⟩ := running
  simp only [Cache.apply, placed]
  exact cache.replace_stored_of_ne given

theorem ending?_land (running : cache.IsRunning flight) (ending : Ending Octets) :
    (cache.apply (.land flight ending)).ending? flight = some ending := by
  obtain ⟨stopping, placed⟩ := running
  simp only [Cache.apply, placed, Cache.ending?, land_flights, List.getElem?_modify_eq]
  rfl

theorem length_flights_launch (cache : Cache) (flight : Nat) :
    (cache.apply (.launch flight)).flights.length = cache.flights.length :=
  length_flights_of_apart rfl

theorem isRunning_launch (within : flight < cache.flights.length)
    (goes : (cache.apply (.launch flight)).ending? flight = none) :
    (cache.apply (.launch flight)).IsRunning flight := by
  obtain ⟨flown, placed⟩ : ∃ flown, cache.flights[flight]? = some flown :=
    ⟨_, List.getElem?_eq_getElem within⟩
  obtain ⟨phase, stopping⟩ := flown
  cases phase with
  | queued =>
      cases stopping with
      | false =>
          simp only [Cache.apply, placed]
          refine ⟨false, ?_⟩
          rw [setPhase, List.getElem?_modify_eq, placed]
          rfl
      | true =>
          simp only [Cache.apply, placed, Cache.ending?, setPhase, List.getElem?_modify_eq,
            Option.map_eq_map, Option.map_some, Option.bind_some, Flight.ending?] at goes
          cases goes
  | running =>
      simp only [Cache.apply, placed]
      exact ⟨stopping, placed⟩
  | ended ending =>
      simp only [Cache.apply, placed, Cache.ending?, Option.bind_some, Flight.ending?] at goes
      cases goes

end Scep.Cache
