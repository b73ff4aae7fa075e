import Scep.Proofs.Cache.Remembrance

/-!
Readers that stop waiting are missed by nobody.

A run is compared with the run of the same moves in which some readers, whoever
they are, never stop waiting.  The two caches differ in what became of those
readers and in nothing else, since a reader has no part in the fetch that it
waits for and goes on without creating another one.
-/

namespace Scep.Cache

/-- Whether a move is one of the given readers stopping to wait. -/
def Move.isDepartureOf (leavers : Nat → Bool) : Move → Bool
  | .abandon reader => leavers reader
  | _ => false

/-- The moves in which the given readers go on waiting. -/
def withoutDepartures (leavers : Nat → Bool) (moves : List Move) : List Move :=
  moves.filter fun move => !move.isDepartureOf leavers

/-- A cache that differs from another one in the given readers at most. -/
structure DiffersAt (leavers : Nat → Bool) (cache other : Cache) : Prop where
  rest : other = { cache with readers := other.readers }
  count : other.readers.length = cache.readers.length
  others : ∀ reader, leavers reader = false → other.readers[reader]? = cache.readers[reader]?

variable {leavers : Nat → Bool} {cache other : Cache}

/-! ### Moves that readers have no part in -/

private theorem look_readers_irrelevant (cache : Cache) (readers : List Reader) :
    ({ cache with readers } : Cache).look = ({ cache.look.1 with readers }, cache.look.2) := by
  by_cases missing : cache.stored = []
  · cases taken : cache.slot with
    | some flight => simp only [look, missing, taken, List.isEmpty_nil, if_true]
    | none => simp only [look, missing, taken, List.isEmpty_nil, if_true]
  · have kept : ({ cache with readers } : Cache).stored ≠ [] := missing
    rw [look_kept missing, look_kept kept]

private theorem apply_readers_irrelevant (cache : Cache) (readers : List Reader) {move : Move}
    (apart : move.isReaders = false) :
    ({ cache with readers } : Cache).apply move = { cache.apply move with readers } := by
  cases move with
  | replace list =>
      simp only [Cache.apply, replace]
      split <;> rfl
  | launch flight =>
      simp only [Cache.apply]
      split <;> rfl
  | land flight ending =>
      simp only [Cache.apply]
      split
      · cases ending with
        | value list =>
            simp only [land, replace]
            split <;> rfl
        | failed raised => rfl
        | cancelled => rfl
      · rfl
  | close =>
      simp only [Cache.apply]
      split <;> rfl
  | closed closer =>
      have same : (({ cache with readers } : Cache).closing? closer).bind
          ({ cache with readers } : Cache).ending? =
            (cache.closing? closer).bind cache.ending? := rfl
      simp only [Cache.apply, same]
      split <;> rfl
  | quit closer =>
      have same : ({ cache with readers } : Cache).closing? closer = cache.closing? closer := rfl
      simp only [Cache.apply, same]
      split <;> rfl
  | ask => cases apart
  | resume reader => cases apart
  | abandon reader => cases apart

/-! ### Moves of one reader -/

private theorem Remembers.resume_or_same (remembers : cache.Remembers) (reader : Nat) :
    cache.apply (.resume reader) = cache ∨
      ∃ outcome, cache.apply (.resume reader) = cache.setReader reader (.finished outcome) := by
  cases resumed : (cache.awaited? reader).bind cache.ending? with
  | none =>
      left
      simp only [Cache.apply, resumed]
  | some ending =>
      right
      obtain ⟨flight, awaits, ended⟩ := Option.bind_eq_some_iff.mp resumed
      exact ⟨_, remembers.apply_resume awaits ended⟩

theorem abandon_or_same (cache : Cache) (reader : Nat) :
    cache.apply (.abandon reader) = cache ∨
      cache.apply (.abandon reader) = cache.setReader reader (.finished .cancelled) := by
  simp only [Cache.apply]
  split
  · exact Or.inr rfl
  · exact Or.inl rfl

/-! ### The same move in both runs -/

namespace DiffersAt

theorem refl (leavers : Nat → Bool) (cache : Cache) : DiffersAt leavers cache cache :=
  ⟨rfl, rfl, fun _ _ => rfl⟩

theorem symm (differs : DiffersAt leavers cache other) : DiffersAt leavers other cache where
  rest := by rw [differs.rest]
  count := differs.count.symm
  others := fun reader stays => (differs.others reader stays).symm

theorem trans {last : Cache} (differs : DiffersAt leavers cache other)
    (later : DiffersAt leavers other last) : DiffersAt leavers cache last where
  rest := by rw [later.rest, differs.rest]
  count := later.count.trans differs.count
  others := fun reader stays => (later.others reader stays).trans (differs.others reader stays)

private theorem setReader (cache : Cache) {reader : Nat} (leaves : leavers reader = true)
    (next : Reader) :
    DiffersAt leavers cache (cache.setReader reader next) where
  rest := rfl
  count := List.length_set
  others := by
    intro place stays
    have different : reader ≠ place := by
      intro same
      rw [same, stays] at leaves
      cases leaves
    exact List.getElem?_set_ne different

private theorem setReader_both (differs : DiffersAt leavers cache other) (reader : Nat)
    (next : Reader) :
    DiffersAt leavers (cache.setReader reader next) (other.setReader reader next) where
  rest := by
    rw [differs.rest]
    rfl
  count := by
    change (other.readers.set reader next).length = (cache.readers.set reader next).length
    rw [List.length_set, List.length_set, differs.count]
  others := by
    intro place stays
    change (other.readers.set reader next)[place]? = (cache.readers.set reader next)[place]?
    rw [List.getElem?_set, List.getElem?_set, differs.count, differs.others place stays]

private theorem remembers (differs : DiffersAt leavers cache other) (known : cache.Remembers) :
    other.Remembers := by
  rw [differs.rest]
  exact known.congr rfl id

private theorem of_leaver (differs : DiffersAt leavers cache other) {reader : Nat}
    {after last : Cache} (leaves : leavers reader = true)
    (first : after = cache ∨ ∃ next, after = cache.setReader reader next)
    (second : last = other ∨ ∃ next, last = other.setReader reader next) :
    DiffersAt leavers after last := by
  have before : DiffersAt leavers after cache := by
    rcases first with rfl | ⟨next, rfl⟩
    · exact refl leavers after
    · exact (setReader cache leaves next).symm
  have later : DiffersAt leavers other last := by
    rcases second with rfl | ⟨next, rfl⟩
    · exact refl leavers last
    · exact setReader other leaves next
  exact before.trans (differs.trans later)

private theorem awaited? (differs : DiffersAt leavers cache other) {reader : Nat}
    (stays : leavers reader = false) : other.awaited? reader = cache.awaited? reader := by
  unfold Cache.awaited?
  rw [differs.others reader stays]

private theorem ending? (differs : DiffersAt leavers cache other) (flight : Nat) :
    other.ending? flight = cache.ending? flight := by
  rw [differs.rest]
  rfl

private theorem ask (differs : DiffersAt leavers cache other) :
    DiffersAt leavers (cache.apply .ask) (other.apply .ask) := by
  have looked : other.look = ({ cache.look.1 with readers := other.readers }, cache.look.2) := by
    rw [differs.rest]
    exact cache.look_readers_irrelevant other.readers
  rw [apply_ask, apply_ask, looked]
  refine ⟨rfl, ?_, ?_⟩
  · rw [List.length_append, List.length_append, differs.count]
  · intro reader stays
    rw [List.getElem?_append, List.getElem?_append, differs.count, differs.others reader stays]

private theorem resume (differs : DiffersAt leavers cache other) (known : cache.Remembers)
    (reader : Nat) :
    DiffersAt leavers (cache.apply (.resume reader)) (other.apply (.resume reader)) := by
  cases stays : leavers reader with
  | true =>
      refine differs.of_leaver stays ?_ ?_
      · exact (known.resume_or_same reader).imp id fun ⟨outcome, same⟩ => ⟨_, same⟩
      · exact ((differs.remembers known).resume_or_same reader).imp id
          fun ⟨outcome, same⟩ => ⟨_, same⟩
  | false =>
      cases awaits : cache.awaited? reader with
      | none =>
          have also : other.awaited? reader = none := (differs.awaited? stays).trans awaits
          simp only [Cache.apply, awaits, also, Option.bind_none]
          exact differs
      | some flight =>
          have also : other.awaited? reader = some flight := (differs.awaited? stays).trans awaits
          -- The fetch is the same in both runs, and so is what it leaves to be given.
          cases ended : cache.ending? flight with
          | none =>
              have goes : other.ending? flight = none := (differs.ending? flight).trans ended
              simp only [Cache.apply, awaits, also, Option.bind_some, ended, goes]
              exact differs
          | some ending =>
              have landed : other.ending? flight = some ending :=
                (differs.ending? flight).trans ended
              have given : other.outcome ending = cache.outcome ending := by
                rw [differs.rest]
                rfl
              rw [known.apply_resume awaits ended,
                (differs.remembers known).apply_resume also landed, given]
              exact differs.setReader_both reader _

private theorem abandon (differs : DiffersAt leavers cache other) (reader : Nat) :
    DiffersAt leavers (cache.apply (.abandon reader)) (other.apply (.abandon reader)) := by
  cases stays : leavers reader with
  | true =>
      exact differs.of_leaver stays ((cache.abandon_or_same reader).imp id fun same => ⟨_, same⟩)
        ((other.abandon_or_same reader).imp id fun same => ⟨_, same⟩)
  | false =>
      simp only [Cache.apply, differs.awaited? stays]
      split
      · exact differs.setReader_both reader _
      · exact differs

private theorem apply (differs : DiffersAt leavers cache other) (known : cache.Remembers)
    (move : Move) :
    DiffersAt leavers (cache.apply move) (other.apply move) := by
  cases apart : move.isReaders with
  | false =>
      have same := cache.apply_readers_irrelevant other.readers apart
      have kept : (cache.apply move).readers = cache.readers :=
        (congrArg Cache.readers (cache.apply_readers_irrelevant cache.readers apart)).trans rfl
      rw [← differs.rest] at same
      rw [same]
      refine ⟨rfl, ?_, ?_⟩
      · rw [kept]
        exact differs.count
      · rw [kept]
        exact differs.others
  | true =>
      cases move with
      | ask => exact differs.ask
      | resume reader => exact differs.resume known reader
      | abandon reader => exact differs.abandon reader
      | replace list => cases apart
      | launch flight => cases apart
      | land flight ending => cases apart
      | close => cases apart
      | closed closer => cases apart
      | quit closer => cases apart

end DiffersAt

/-! ### A move that is left out -/

private theorem differsAt_departure (cache : Cache) {move : Move}
    (departs : move.isDepartureOf leavers = true) :
    DiffersAt leavers (cache.apply move) cache := by
  cases move with
  | abandon reader =>
      exact (DiffersAt.refl leavers cache).of_leaver departs
        ((cache.abandon_or_same reader).imp id fun same => ⟨_, same⟩) (Or.inl rfl)
  | replace list => cases departs
  | ask => cases departs
  | resume reader => cases departs
  | launch flight => cases departs
  | land flight ending => cases departs
  | close => cases departs
  | closed closer => cases departs
  | quit closer => cases departs

/-- Leaving out departures makes no difference but to those who departed. -/
theorem DiffersAt.run (differs : DiffersAt leavers cache other) (known : cache.Remembers)
    (moves : List Move) :
    DiffersAt leavers (cache.run moves) (other.run (withoutDepartures leavers moves)) := by
  induction moves generalizing cache other with
  | nil => exact differs
  | cons move rest ih =>
      rw [run_cons, withoutDepartures, List.filter_cons]
      cases departs : move.isDepartureOf leavers with
      | true =>
          -- Only one of the runs makes the move, which touches no other reader.
          simp only [Bool.not_true, Bool.false_eq_true, if_false]
          exact ih ((cache.differsAt_departure departs).trans differs) (known.apply move)
      | false =>
          simp only [Bool.not_false, if_true]
          rw [run_cons]
          exact ih (differs.apply known move) (known.apply move)

end Scep.Cache
