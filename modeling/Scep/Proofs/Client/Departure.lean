import Scep.Proofs.Cache.Departure
import Scep.Proofs.Client.Session

/-!
Calls that give up waiting for the capability list.

Nobody else can tell whether a call that waits for the list is cancelled, runs
out of time or goes on waiting: neither the fetch, nor the cache, nor another
call.
-/

namespace Scep

namespace Session

variable {Far Held : Type}

private theorem perform_wake_leaving (session : Session Far Held) (line : Line Far Held)
    {index : Nat}
    {call : Call} {deadline : Option Deadline} {reader : Nat} {isCancelled hasExpired : Bool}
    (stands : session.tasks[index]? = some
      { work := .call call deadline
        stage := .listing reader
        isRoused := true
        isCancelled
        hasExpired })
    (leaves : (isCancelled || hasExpired) = true) :
    ∃ ending, session.perform line (.wake index) =
      { session with
        cache := session.cache.apply (.abandon reader)
        tasks := session.tasks.modify index fun task =>
          { task with stage := .ended ending, isRoused := false } } := by
  have moved : session.move (.abandon reader) =
      { session with cache := session.cache.apply (.abandon reader) } := by
    apply move_of_length
    rcases session.cache.abandon_or_same reader with same | same
    · rw [same]
    · rw [same]
      rfl
  simp only [perform, stands, if_true, goOn, leaves, unwind, moved]
  cases isCancelled with
  | true => exact ⟨.cancelled, rfl⟩
  | false =>
      simp only [Bool.false_eq_true, if_false, fail]
      exact ⟨.failed _, rfl⟩

end Session

namespace Cache

/-- A run in which any readers stop waiting at any points, beside the run of the
same moves in which they never do: the list, the state, the fetches with all that
became of them, the closers and all other readers are the same. -/
theorem departures_unseen (leavers : Nat → Bool) (moves : List Move) :
    (let cache := ({} : Cache).run moves
      let stayed := ({} : Cache).run (withoutDepartures leavers moves)
      stayed.stored = cache.stored ∧ stayed.state = cache.state ∧ stayed.slot = cache.slot ∧
        stayed.flights = cache.flights ∧ stayed.closers = cache.closers ∧
        stayed.readers.length = cache.readers.length ∧
        ∀ reader, leavers reader = false → stayed.readers[reader]? = cache.readers[reader]?) ∧
      ∀ {Far Held : Type} (session : Session Far Held) (line : Line Far Held) (index : Nat)
        (call : Call) (deadline : Option Deadline) (reader : Nat) (isCancelled hasExpired : Bool),
        session.tasks[index]? = some
          { work := .call call deadline
            stage := .listing reader
            isRoused := true
            isCancelled
            hasExpired } →
        (isCancelled || hasExpired) = true →
        ∃ ending, session.perform line (.wake index) =
          { session with
            cache := session.cache.apply (.abandon reader)
            tasks := session.tasks.modify index fun task =>
              { task with stage := .ended ending, isRoused := false } } := by
  refine ⟨?_, ?_⟩
  · intro cache stayed
    have differs : DiffersAt leavers cache stayed :=
      (DiffersAt.refl leavers {}).run Remembers.start moves
    have rest := differs.rest
    refine ⟨?_, ?_, ?_, ?_, ?_, differs.count, differs.others⟩
    · rw [rest]
    · rw [rest]
      rfl
    · rw [rest]
    · rw [rest]
    · rw [rest]
  · intro Far Held session line index call deadline reader isCancelled hasExpired stands leaves
    exact Session.perform_wake_leaving session line stands leaves

end Cache

end Scep
