import Scep.Proofs.Cache.Basic

/-!
What a move may do to the list that is kept, to the place where newcomers look
for a fetch, and to the fetches.

Readers and closers come and go by moves of their own.  What the cache does for
them is one of the eight changes below, and invariants of the cache go through
these and not through the moves.
-/

namespace Scep.Cache

/-- The changes of a cache, readers and closers apart, with the moves that make
them. -/
inductive Change (cache : Cache) : Move → Cache → Prop where
  | same {move : Move} {next : Cache} (stored : next.stored = cache.stored)
      (slot : next.slot = cache.slot) (flights : next.flights = cache.flights) :
      Change cache move next
  | put {list : Octets} (given : list ≠ []) :
      Change cache (.replace list) { cache with stored := list }
  | created {move : Move} {next : Cache} (missing : cache.stored = []) (free : cache.slot = none)
      (stored : next.stored = []) (slot : next.slot = some cache.flights.length)
      (flights : next.flights = cache.flights ++ [({} : Flight)]) : Change cache move next
  | launched {index : Nat} (placed : cache.flights[index]? = some ⟨.queued, false⟩) :
      Change cache (.launch index) (cache.setPhase index .running)
  | skipped {index : Nat} (placed : cache.flights[index]? = some ⟨.queued, true⟩) :
      Change cache (.launch index) (cache.setPhase index (.ended .cancelled))
  | landed {index : Nat} {ending : Ending Octets} {stopping : Bool}
      (placed : cache.flights[index]? = some ⟨.running, stopping⟩) :
      Change cache (.land index ending) (cache.land index ending)
  | stopped {index : Nat} {next : Cache} (taken : cache.slot = some index)
      (stored : next.stored = cache.stored) (slot : next.slot = cache.slot)
      (flights : next.flights =
        cache.flights.modify index fun flight => { flight with isStopping := true }) :
      Change cache .close next
  | freed {closer : Nat} {next : Cache} {ending : Ending Octets}
      (resumed : (cache.closing? closer).bind cache.ending? = some ending)
      (stored : next.stored = cache.stored) (slot : next.slot = none)
      (flights : next.flights = cache.flights) : Change cache (.closed closer) next

variable {cache : Cache} {move : Move}

private theorem Change.of_look {next : Cache} (stored : next.stored = cache.look.1.stored)
    (slot : next.slot = cache.look.1.slot) (flights : next.flights = cache.look.1.flights) :
    Change cache move next := by
  by_cases missing : cache.stored = []
  · cases taken : cache.slot with
    | some flight =>
        rw [look_joins missing taken] at stored slot flights
        exact .same stored slot flights
    | none =>
        rw [look_creates missing taken] at stored slot flights
        exact .created missing taken (stored.trans missing) slot flights
  · rw [look_kept missing] at stored slot flights
    exact .same stored slot flights

theorem change_apply (cache : Cache) (move : Move) : Change cache move (cache.apply move) := by
  cases move with
  | replace list =>
      cases list with
      | nil => exact .same rfl rfl rfl
      | cons first rest => exact .put (List.cons_ne_nil first rest)
  | ask => exact .of_look rfl rfl rfl
  | resume reader =>
      simp only [Cache.apply]
      split
      · unfold settle
        split
        · exact .of_look rfl rfl rfl
        · exact .same rfl rfl rfl
      · exact .same rfl rfl rfl
  | abandon reader =>
      simp only [Cache.apply]
      split <;> exact .same rfl rfl rfl
  | launch index =>
      simp only [Cache.apply]
      split
      · exact .launched ‹_›
      · exact .skipped ‹_›
      · exact .same rfl rfl rfl
  | land index ending =>
      simp only [Cache.apply]
      split
      · exact .landed ‹_›
      · exact .same rfl rfl rfl
  | close =>
      simp only [Cache.apply]
      split
      · exact .same rfl rfl rfl
      · exact .stopped ‹_› rfl rfl rfl
  | closed closer =>
      simp only [Cache.apply]
      split
      · exact .freed ‹_› rfl rfl rfl
      · exact .same rfl rfl rfl
  | quit closer =>
      simp only [Cache.apply]
      split <;> exact .same rfl rfl rfl

/-! ### Ends of fetches -/

variable {number : Nat} {ending : Ending Octets}

private theorem ending?_of_flights {other : Cache} (flights : other.flights = cache.flights) :
    other.ending? number = cache.ending? number := by
  rw [ending?, flights, ending?]

private theorem ended_of_modify {other : Cache} {index : Nat} {change : Flight → Flight}
    (flights : other.flights = cache.flights.modify index change)
    (ended : other.ending? number = some ending) :
    cache.ending? number = some ending ∨
      ∃ flight, index = number ∧ cache.flights[number]? = some flight ∧
        (change flight).ending? = some ending := by
  rw [ending?, flights] at ended
  by_cases same : index = number
  · subst same
    rw [List.getElem?_modify_eq] at ended
    cases placed : cache.flights[index]? with
    | none =>
        rw [placed] at ended
        cases ended
    | some flight =>
        rw [placed] at ended
        exact Or.inr ⟨flight, rfl, rfl, ended⟩
  · rw [List.getElem?_modify_ne _ _ same] at ended
    exact Or.inl ended

private theorem ended_modify {other : Cache} {index : Nat} {change : Flight → Flight}
    (flights : other.flights = cache.flights.modify index change)
    (goesOn : ∀ flight, cache.flights[index]? = some flight →
      flight.ending? = some ending → (change flight).ending? = some ending)
    (ended : cache.ending? number = some ending) : other.ending? number = some ending := by
  obtain ⟨flight, placed, landed⟩ := Option.bind_eq_some_iff.mp ended
  rw [ending?, flights]
  by_cases same : index = number
  · subst same
    rw [List.getElem?_modify_eq, placed]
    exact goesOn flight placed landed
  · rw [List.getElem?_modify_ne _ _ same]
    exact ended

private theorem ended_of_created {other : Cache}
    (flights : other.flights = cache.flights ++ [({} : Flight)])
    (ended : other.ending? number = some ending) : cache.ending? number = some ending := by
  rw [ending?, flights] at ended
  rcases Nat.lt_or_ge number cache.flights.length with inside | outside
  · rw [List.getElem?_append_left inside] at ended
    exact ended
  · rw [List.getElem?_append_right outside] at ended
    cases place : number - cache.flights.length with
    | zero =>
        rw [place] at ended
        cases ended
    | succ more =>
        rw [place] at ended
        cases ended

private theorem ended_apply (ended : cache.ending? number = some ending) (move : Move) :
    (cache.apply move).ending? number = some ending := by
  have change := cache.change_apply move
  generalize cache.apply move = next at change ⊢
  -- A fetch that launches or lands has not ended yet.
  have going : ∀ {index : Nat} {flown : Flight} {change : Flight → Flight},
      cache.flights[index]? = some flown → flown.ending? = none →
      ∀ flight, cache.flights[index]? = some flight → flight.ending? = some ending →
        (change flight).ending? = some ending := by
    intro index flown change placed goes flight also landed
    rw [placed] at also
    cases also
    rw [goes] at landed
    cases landed
  cases change with
  | same stored slot flights => exact (ending?_of_flights flights).trans ended
  | put given => exact ended
  | created missing free stored slot flights =>
      obtain ⟨flight, placed, _⟩ := Option.bind_eq_some_iff.mp ended
      rw [ending?, flights, List.getElem?_append_left (List.getElem?_eq_some_iff.mp placed).1]
      exact ended
  | launched placed => exact ended_modify rfl (going placed rfl) ended
  | skipped placed => exact ended_modify rfl (going placed rfl) ended
  | landed placed => exact ended_modify (cache.land_flights _ _) (going placed rfl) ended
  | stopped taken stored slot flights =>
      exact ended_modify flights (fun _ _ landed => landed) ended
  | freed resumed stored slot flights => exact (ending?_of_flights flights).trans ended

theorem ended_run (ended : cache.ending? number = some ending) (moves : List Move) :
    (cache.run moves).ending? number = some ending := by
  induction moves generalizing cache with
  | nil => exact ended
  | cons move rest ih => exact ih (ended_apply ended move)

theorem failed_apply {raised : Raised}
    (failed : (cache.apply move).ending? number = some (.failed raised)) :
    cache.ending? number = some (.failed raised) ∨ move = .land number (.failed raised) := by
  have change := cache.change_apply move
  generalize cache.apply move = next at change failed
  cases change with
  | same stored slot flights => exact Or.inl ((ending?_of_flights flights).symm.trans failed)
  | put given => exact Or.inl failed
  | created missing free stored slot flights => exact Or.inl (ended_of_created flights failed)
  | launched placed =>
      rcases ended_of_modify rfl failed with before | ⟨flight, _, _, ended⟩
      · exact Or.inl before
      · cases ended
  | skipped placed =>
      rcases ended_of_modify rfl failed with before | ⟨flight, _, _, ended⟩
      · exact Or.inl before
      · cases ended
  | @landed index ending stopping placed =>
      rcases ended_of_modify (cache.land_flights index ending) failed with
        before | ⟨flight, same, _, ended⟩
      · exact Or.inl before
      · cases ended
        rw [same]
        exact Or.inr rfl
  | stopped taken stored slot flights =>
      rcases ended_of_modify flights failed with before | ⟨flight, _, placed, ended⟩
      · exact Or.inl before
      · left
        rw [ending?, placed]
        exact ended
  | freed resumed stored slot flights =>
      exact Or.inl ((ending?_of_flights flights).symm.trans failed)

/-! ### The fetch that newcomers join -/

/-- The fetch that newcomers join has not brought anything: it leaves its place as
it does. -/
def IsOpen (cache : Cache) : Prop :=
  ∀ flight list, cache.slot = some flight → cache.ending? flight ≠ some (.value list)

namespace IsOpen

theorem start : IsOpen {} := by
  intro flight list taken
  cases taken

theorem apply (isOpen : cache.IsOpen) (move : Move) : (cache.apply move).IsOpen := by
  have change := cache.change_apply move
  generalize cache.apply move = next at change ⊢
  intro flight list taken ended
  cases change with
  | same stored slot flights =>
      exact isOpen flight list (slot.symm.trans taken) ((ending?_of_flights flights).symm.trans ended)
  | put given => exact isOpen flight list taken ended
  | created missing free stored slot flights =>
      -- The new fetch has the number of those before it.
      have before := ended_of_created flights ended
      obtain ⟨flown, placed, _⟩ := Option.bind_eq_some_iff.mp before
      rw [slot] at taken
      cases taken
      exact Nat.lt_irrefl _ (List.getElem?_eq_some_iff.mp placed).1
  | launched placed =>
      rcases ended_of_modify rfl ended with before | ⟨_, _, _, landed⟩
      · exact isOpen flight list taken before
      · cases landed
  | skipped placed =>
      rcases ended_of_modify rfl ended with before | ⟨_, _, _, landed⟩
      · exact isOpen flight list taken before
      · cases landed
  | landed placed => cases taken
  | stopped _ stored slot flights =>
      rcases ended_of_modify flights ended with before | ⟨flown, _, placed, landed⟩
      · exact isOpen flight list (slot.symm.trans taken) before
      · refine isOpen flight list (slot.symm.trans taken) ?_
        rw [ending?, placed]
        exact landed
  | freed resumed stored slot flights =>
      rw [slot] at taken
      cases taken

theorem run (isOpen : cache.IsOpen) (moves : List Move) : (cache.run moves).IsOpen := by
  induction moves generalizing cache with
  | nil => exact isOpen
  | cons move rest ih => exact ih (isOpen.apply move)

end IsOpen

/-! ### Caches that keep a list -/

theorem settled_apply (kept : cache.stored ≠ []) (move : Move) :
    (cache.apply move).stored ≠ [] ∧
      (cache.apply move).flights.length = cache.flights.length := by
  have change := cache.change_apply move
  generalize cache.apply move = next at change ⊢
  cases change with
  | same stored slot flights =>
      rw [stored, flights]
      exact ⟨kept, rfl⟩
  | put given => exact ⟨given, rfl⟩
  | created missing free stored slot flights => exact absurd missing kept
  | launched placed => exact ⟨kept, List.length_modify _ _ _⟩
  | skipped placed => exact ⟨kept, List.length_modify _ _ _⟩
  | landed placed =>
      rw [land_flights, List.length_modify]
      exact ⟨cache.land_keeps _ _ kept, rfl⟩
  | stopped taken stored slot flights =>
      rw [stored, flights, List.length_modify]
      exact ⟨kept, rfl⟩
  | freed resumed stored slot flights =>
      rw [stored, flights]
      exact ⟨kept, rfl⟩

theorem settled_run (kept : cache.stored ≠ []) (moves : List Move) :
    (cache.run moves).stored ≠ [] ∧
      (cache.run moves).flights.length = cache.flights.length := by
  induction moves generalizing cache with
  | nil => exact ⟨kept, rfl⟩
  | cons move rest ih =>
      obtain ⟨still, same⟩ := settled_apply kept move
      obtain ⟨last, length⟩ := ih still
      exact ⟨last, length.trans same⟩

end Scep.Cache
