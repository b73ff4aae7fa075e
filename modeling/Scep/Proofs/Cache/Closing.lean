import Mathlib.Data.List.Induction
import Scep.Proofs.Cache.Change
import Scep.Proofs.Cache.SingleFlight

/-!
What closing a cache achieves.

A closer asks the fetch under way to stop, waits until it is over, and then
clears the place where newcomers look for a fetch.  Newcomers that come between
the end of the fetch and the return of the closer have another fetch created,
and the closer clears its place too.  Closing does what it should in exactly the
runs in which that never happens.
-/

namespace Scep.Cache

/-! ### Fetches that newcomers join -/

/-- A fetch that is under way is the one that newcomers join. -/
def IsTracked (cache : Cache) : Prop :=
  ∀ index, cache.isUnderWay index = true → cache.slot = some index

/-- Whether a move lets a closer return: at once if there is no fetch to stop,
and otherwise once the fetch is over. -/
def returns (cache : Cache) : Move → Bool
  | .close => cache.slot.isNone
  | .closed closer => ((cache.closing? closer).bind cache.ending?).isSome
  | _ => false

/-- Whether a closer returns while a fetch of newcomers is under way. -/
def isOvertaken (cache : Cache) : Move → Bool
  | .closed closer => cache.returns (.closed closer) && cache.slot.any cache.isUnderWay
  | _ => false

variable {cache other : Cache}

private theorem isUnderWay_congr (flights : other.flights = cache.flights) (index : Nat) :
    other.isUnderWay index = cache.isUnderWay index := by
  unfold isUnderWay
  rw [flights]

private theorem isUnderWay_of_modify {index place : Nat} {change : Flight → Flight}
    (flights : other.flights = cache.flights.modify index change)
    (ends : ∀ flight, (change flight).ending? = none → flight.ending? = none)
    (underWay : other.isUnderWay place = true) : cache.isUnderWay place = true := by
  obtain ⟨changed, placed, going⟩ := isUnderWay_iff.mp underWay
  rw [flights, List.getElem?_modify] at placed
  obtain ⟨flight, found, same⟩ := Option.map_eq_some_iff.mp placed
  refine isUnderWay_iff.mpr ⟨flight, found, ?_⟩
  by_cases here : index = place
  · rw [if_pos here] at same
    rw [← same] at going
    exact ends flight going
  · rw [if_neg here] at same
    rw [same]
    exact going

namespace IsTracked

private theorem start : IsTracked {} := by
  intro index underWay
  cases underWay

private theorem congr (tracked : cache.IsTracked) (flights : other.flights = cache.flights)
    (slot : other.slot = cache.slot) : other.IsTracked := by
  intro index underWay
  rw [isUnderWay_congr flights] at underWay
  rw [slot]
  exact tracked index underWay

private theorem idle (tracked : cache.IsTracked) (free : cache.slot = none) (index : Nat) :
    cache.isUnderWay index = false := by
  cases underWay : cache.isUnderWay index with
  | false => rfl
  | true =>
      have taken := tracked index underWay
      rw [free] at taken
      cases taken

private theorem of_modify (tracked : cache.IsTracked) {index : Nat} {change : Flight → Flight}
    (flights : other.flights = cache.flights.modify index change)
    (ends : ∀ flight, (change flight).ending? = none → flight.ending? = none)
    (slot : other.slot = cache.slot) : other.IsTracked := by
  intro place underWay
  rw [slot]
  exact tracked place (isUnderWay_of_modify flights ends underWay)

private theorem land (tracked : cache.IsTracked) {index : Nat} {stopping : Bool}
    (placed : cache.flights[index]? = some ⟨.running, stopping⟩) (ending : Ending Octets) :
    (cache.land index ending).IsTracked := by
  intro place underWay
  have taken := tracked index (isUnderWay_iff.mpr ⟨_, placed, rfl⟩)
  by_cases same : place = index
  · subst same
    obtain ⟨flight, found, going⟩ := isUnderWay_iff.mp underWay
    rw [land_flights, List.getElem?_modify_eq, placed] at found
    rw [← Option.some.inj found] at going
    cases going
  · rw [isUnderWay_of_ne (cache.land_flights index ending) same] at underWay
    rw [tracked place underWay] at taken
    exact absurd (Option.some.inj taken) same

private theorem apply (tracked : cache.IsTracked) {move : Move}
    (onTime : cache.isOvertaken move = false) : (cache.apply move).IsTracked := by
  have change := cache.change_apply move
  generalize cache.apply move = next at change ⊢
  cases change with
  | same stored slot flights => exact tracked.congr flights slot
  | put given => exact tracked.congr rfl rfl
  | created missing free stored slot flights =>
      intro index underWay
      rw [slot]
      rcases (isUnderWay_created flights).mp underWay with old | new
      · rw [tracked.idle free index] at old
        cases old
      · rw [new]
  | @launched index placed =>
      intro place underWay
      by_cases same : place = index
      · subst same
        exact tracked place (isUnderWay_iff.mpr ⟨_, placed, rfl⟩)
      · rw [isUnderWay_of_ne rfl same] at underWay
        exact tracked place underWay
  | skipped placed => exact tracked.of_modify rfl (by intro flight going; cases going) rfl
  | landed placed => exact tracked.land placed _
  | stopped taken stored slot flights =>
      exact tracked.of_modify flights (fun flight going => going) slot
  | freed resumed stored slot flights =>
      -- The place is cleared, so a fetch under way would have been overtaken.
      intro index underWay
      rw [isUnderWay_congr flights] at underWay
      simp only [isOvertaken, returns, resumed, Option.isSome_some, Bool.true_and,
        tracked index underWay, Option.any_some, underWay, Bool.true_eq_false] at onTime

end IsTracked

/-! ### Closers that return -/

private theorem slot_of_returns {move : Move} (goes : cache.returns move = true) :
    (cache.apply move).slot = none := by
  cases move with
  | close =>
      have free := Option.isNone_iff_eq_none.mp goes
      simp only [Cache.apply, free]
  | closed closer =>
      obtain ⟨ending, resumed⟩ := Option.isSome_iff_exists.mp goes
      simp only [Cache.apply, resumed]
  | replace list => cases goes
  | ask => cases goes
  | resume reader => cases goes
  | abandon reader => cases goes
  | launch flight => cases goes
  | land flight ending => cases goes
  | quit closer => cases goes

private theorem not_isTracked_of_isOvertaken {move : Move}
    (overtaken : cache.isOvertaken move = true) :
    ¬(cache.apply move).IsTracked := by
  intro tracked
  cases move with
  | closed closer =>
      simp only [isOvertaken, Bool.and_eq_true] at overtaken
      obtain ⟨goes, taken⟩ := overtaken
      obtain ⟨ending, resumed⟩ := Option.isSome_iff_exists.mp goes
      have same : (cache.apply (.closed closer)).flights = cache.flights := by
        simp only [Cache.apply, resumed]
        rfl
      cases held : cache.slot with
      | none =>
          rw [held] at taken
          cases taken
      | some flight =>
          rw [held, Option.any_some, ← isUnderWay_congr same] at taken
          have idle := tracked.idle (slot_of_returns goes) flight
          rw [idle] at taken
          cases taken
  | replace list => cases overtaken
  | ask => cases overtaken
  | resume reader => cases overtaken
  | abandon reader => cases overtaken
  | launch flight => cases overtaken
  | land flight ending => cases overtaken
  | close => cases overtaken
  | quit closer => cases overtaken

/-! ### Runs -/

private theorem run_concat (cache : Cache) (before : List Move) (move : Move) :
    cache.run (before ++ [move]) = (cache.run before).apply move := by
  rw [run, List.foldl_append]
  rfl

private theorem isTracked_run {moves : List Move}
    (onTime : ∀ before move, before ++ [move] <+: moves →
      (({} : Cache).run before).isOvertaken move = false) :
    (({} : Cache).run moves).IsTracked := by
  induction moves using List.reverseRecOn with
  | nil => exact IsTracked.start
  | append_singleton before move ih =>
      rw [run_concat]
      have earlier := ih fun first next within =>
        onTime first next (within.trans (List.prefix_append before [move]))
      exact earlier.apply (onTime before move (List.prefix_refl _))

/-- Closing keeps its promise in the runs in which no closer is overtaken, and
in no other: every fetch under way is the one that newcomers join, so that none
is created beside it, and no fetch is under way when a closer returns. -/
theorem closing_stops_iff (moves : List Move) :
    ((∀ before, before <+: moves → ∀ index, (({} : Cache).run before).isUnderWay index = true →
        (({} : Cache).run before).slot = some index ∧
          ((({} : Cache).run before).apply .ask).flights = (({} : Cache).run before).flights) ∧
      ∀ before move, before ++ [move] <+: moves →
        (({} : Cache).run before).returns move = true →
        ∀ index, ((({} : Cache).run before).apply move).isUnderWay index = false) ↔
    ∀ before move, before ++ [move] <+: moves →
      (({} : Cache).run before).isOvertaken move = false := by
  constructor
  · rintro ⟨tracked, _⟩ before move within
    cases overtaken : (({} : Cache).run before).isOvertaken move with
    | false => rfl
    | true =>
        refine absurd ?_ (not_isTracked_of_isOvertaken overtaken)
        intro index underWay
        rw [← run_concat] at underWay ⊢
        exact (tracked _ within index underWay).1
  · intro onTime
    -- Every prefix of the run is a run in which no closer is overtaken.
    have tracked : ∀ before, before <+: moves → (({} : Cache).run before).IsTracked :=
      fun before within => isTracked_run fun first next inside =>
        onTime first next (inside.trans within)
    refine ⟨?_, ?_⟩
    · intro before within index underWay
      have taken := tracked before within index underWay
      refine ⟨taken, ?_⟩
      rw [apply_ask]
      by_cases missing : (({} : Cache).run before).stored = []
      · rw [look_joins missing taken]
      · rw [look_kept missing]
    · intro before move within goes
      have later := tracked _ within
      rw [run_concat] at later
      exact later.idle (slot_of_returns goes)

/-- A reader comes between the end of the fetch that was asked to stop and the
return of the closer.  Its fetch is under way when the closer returns, newcomers
cannot join it, and the next one has a second fetch created beside it. -/
theorem closing_loses_fetch :
    let moves : List Move := [.ask, .launch 0, .close, .land 0 .cancelled, .ask]
    let cache := ({} : Cache).run moves
    let next := cache.apply (.closed 0)
    cache.returns (.closed 0) = true ∧ next.isUnderWay 1 = true ∧ next.slot = none ∧
      (next.apply .ask).isUnderWay 1 = true ∧ (next.apply .ask).isUnderWay 2 = true := by
  decide

end Scep.Cache
