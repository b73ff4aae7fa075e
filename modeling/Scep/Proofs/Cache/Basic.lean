import Scep.Cache

/-!
What the moves of a cache change and what they leave alone.

The three outcomes of a look have a lemma each, and so do the changes of single
fields.  What holds of all runs is derived from these, not from the moves.
-/

namespace Scep.Cache

variable (cache : Cache)

/-! ### Keeping a list -/

@[simp] theorem replace_slot (list : Octets) : (cache.replace list).slot = cache.slot := by
  unfold replace
  split <;> rfl

@[simp] theorem replace_flights (list : Octets) :
    (cache.replace list).flights = cache.flights := by
  unfold replace
  split <;> rfl

@[simp] theorem replace_readers (list : Octets) :
    (cache.replace list).readers = cache.readers := by
  unfold replace
  split <;> rfl

@[simp] theorem replace_closers (list : Octets) :
    (cache.replace list).closers = cache.closers := by
  unfold replace
  split <;> rfl

theorem replace_stored_of_ne {list : Octets} (given : list ≠ []) :
    (cache.replace list).stored = list := by
  have present : list.isEmpty = false := by
    cases list with
    | nil => exact absurd rfl given
    | cons first rest => rfl
  simp only [replace, present, Bool.false_eq_true, if_false]

theorem replace_keeps (list : Octets) (kept : cache.stored ≠ []) :
    (cache.replace list).stored ≠ [] := by
  by_cases given : list = []
  · subst given
    exact kept
  · rw [cache.replace_stored_of_ne given]
    exact given

theorem state_eq_populated_iff : cache.state = .populated ↔ cache.stored ≠ [] := by
  unfold state
  cases cache.stored with
  | nil =>
      constructor
      · intro populated
        split at populated
        · split at populated <;> cases populated
        · rename_i given
          exact absurd rfl given
      · intro given
        exact absurd rfl given
  | cons first rest => exact ⟨fun _ => List.cons_ne_nil first rest, fun _ => rfl⟩

/-! ### Looking for the list -/

variable {cache}

theorem look_kept (kept : cache.stored ≠ []) :
    cache.look = (cache, .finished (.value cache.stored)) := by
  have present : cache.stored.isEmpty = false := by
    cases stored : cache.stored with
    | nil => exact absurd stored kept
    | cons first rest => rfl
  simp only [look, present, Bool.false_eq_true, if_false]

theorem look_joins {flight : Nat} (missing : cache.stored = []) (taken : cache.slot = some flight) :
    cache.look = (cache, .waiting flight) := by
  simp only [look, missing, taken, List.isEmpty_nil, if_true]

theorem look_creates (missing : cache.stored = []) (free : cache.slot = none) :
    cache.look =
      ({ cache with
          slot := some cache.flights.length
          flights := cache.flights ++ [{}] }, .waiting cache.flights.length) := by
  simp only [look, missing, free, List.isEmpty_nil, if_true]

variable (cache)

@[simp] theorem look_readers : cache.look.1.readers = cache.readers := by
  unfold look
  repeat' split
  all_goals rfl

theorem apply_ask :
    cache.apply .ask = { cache.look.1 with readers := cache.readers ++ [cache.look.2] } := by
  rw [← cache.look_readers]
  rfl

/-! ### Going on -/

variable {cache}

theorem apply_resume_of_finished {reader : Nat} {ending : Ending Octets}
    (finished : cache.readers[reader]? = some (.finished ending)) :
    cache.apply (.resume reader) = cache := by
  simp only [apply, awaited?, finished, Option.bind_none]

theorem apply_resume_of_waiting {reader flight : Nat}
    (waits : cache.readers[reader]? = some (.waiting flight))
    (goes : cache.ending? flight = none) : cache.apply (.resume reader) = cache := by
  simp only [apply, awaited?, waits, Option.bind_some, goes]

theorem apply_resume_of_value {reader flight : Nat} {list : Octets}
    (waits : cache.readers[reader]? = some (.waiting flight))
    (landed : cache.ending? flight = some (.value list))
    (kept : list ≠ [] → cache.stored = list) :
    cache.apply (.resume reader) = cache.setReader reader (.finished (.value list)) := by
  have settled : cache.settle (.value list) = (cache, .finished (.value list)) := by
    cases list with
    | nil => rfl
    | cons first rest =>
        have stored := kept (List.cons_ne_nil first rest)
        rw [settle, look_kept (by rw [stored]; exact List.cons_ne_nil first rest), stored]
  simp only [apply, awaited?, waits, Option.bind_some, landed, settled]

variable (cache)

/-! ### Ends of fetches -/

@[simp] theorem land_readers (flight : Nat) (ending : Ending Octets) :
    (cache.land flight ending).readers = cache.readers := by
  cases ending with
  | value list => exact cache.replace_readers list
  | failed raised => rfl
  | cancelled => rfl

@[simp] theorem land_closers (flight : Nat) (ending : Ending Octets) :
    (cache.land flight ending).closers = cache.closers := by
  cases ending with
  | value list => exact cache.replace_closers list
  | failed raised => rfl
  | cancelled => rfl

@[simp] theorem land_flights (flight : Nat) (ending : Ending Octets) :
    (cache.land flight ending).flights =
      cache.flights.modify flight fun landed => { landed with phase := .ended ending } := by
  cases ending with
  | value list =>
      change (cache.replace list).flights.modify _ _ = _
      rw [replace_flights]
  | failed raised => rfl
  | cancelled => rfl

theorem land_keeps (flight : Nat) (ending : Ending Octets) (kept : cache.stored ≠ []) :
    (cache.land flight ending).stored ≠ [] := by
  cases ending with
  | value list => exact cache.replace_keeps list kept
  | failed raised => exact kept
  | cancelled => exact kept

/-! ### Moves that readers have no part in -/

def Move.isReaders : Move → Bool
  | .ask | .resume _ | .abandon _ => true
  | _ => false

variable {cache} {move : Move}

theorem readers_of_apart (apart : move.isReaders = false) :
    (cache.apply move).readers = cache.readers := by
  cases move with
  | replace list => exact cache.replace_readers list
  | launch index =>
      simp only [apply]
      split <;> rfl
  | land index ending =>
      simp only [apply]
      split
      · exact cache.land_readers index ending
      · rfl
  | close =>
      simp only [apply]
      split <;> rfl
  | closed index =>
      simp only [apply]
      split <;> rfl
  | quit index =>
      simp only [apply]
      split <;> rfl
  | ask => cases apart
  | resume reader => cases apart
  | abandon reader => cases apart

theorem length_flights_of_apart (apart : move.isReaders = false) :
    (cache.apply move).flights.length = cache.flights.length := by
  cases move with
  | replace list => exact congrArg List.length (cache.replace_flights list)
  | launch index =>
      simp only [apply]
      split <;> simp only [setPhase, List.length_modify]
  | land index ending =>
      simp only [apply]
      split <;> simp only [land_flights, List.length_modify]
  | close =>
      simp only [apply]
      split <;> simp only [List.length_modify]
  | closed index =>
      simp only [apply]
      split <;> rfl
  | quit index =>
      simp only [apply]
      split <;> rfl
  | ask => cases apart
  | resume reader => cases apart
  | abandon reader => cases apart

variable (cache)

/-! ### Runs -/

@[simp] theorem run_cons (move : Move) (moves : List Move) :
    cache.run (move :: moves) = (cache.apply move).run moves := rfl

end Scep.Cache
