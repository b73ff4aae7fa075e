import Scep.Proofs.Cache.Remembrance
import Scep.Proofs.Client.Session

/-!
What a reader is given when the fetch that it waited for is over.

A reader looks again only after a fetch that has brought a list.  After any
other fetch it is given the end of the fetch, even if a list has come into the
cache from elsewhere.
-/

namespace Scep

namespace Session

variable {Far Held : Type} {session : Session Far Held} {line : Line Far Held} {index : Nat}

private theorem read_outcome (work : Work) (remembers : session.cache.Remembers)
    {reader flight : Nat}
    {ending : Ending Octets} (awaits : session.cache.awaited? reader = some flight)
    (ended : session.cache.ending? flight = some ending) :
    session.read line index work reader =
      ({ session with
        cache := session.cache.setReader reader (.finished (session.cache.outcome ending)) } :
          Session Far Held).listed line index work (session.cache.outcome ending) := by
  have resumed := remembers.apply_resume awaits ended
  have placed := Cache.readers_setReader (Cache.awaited?_eq_some_iff.mp awaits)
    (.finished (session.cache.outcome ending))
  rw [read, move_of_length (by rw [resumed]; rfl), resumed]
  simp only [placed]

private theorem perform_wake_supports {capability : String} {deadline : Option Deadline}
    {reader flight : Nat} {list : Octets} (remembers : session.cache.Remembers)
    (stands : session.tasks[index]? = some
      { work := .call (.supports capability) deadline, stage := .listing reader, isRoused := true })
    (awaits : session.cache.awaited? reader = some flight)
    (ended : session.cache.ending? flight = some (.value list)) (given : list ≠ []) :
    (session.perform line (.wake index)).ending? index =
      some (.value (.truth (Cache.advertises session.cache.stored capability))) := by
  have performed : session.perform line (.wake index) =
      session.read line index (.call (.supports capability) deadline) reader := by
    simp only [perform, stands, goOn, Bool.or_self, Bool.false_eq_true, if_false, if_true]
  rw [performed, read_outcome _ remembers awaits ended, Cache.outcome_of_list given]
  exact ending?_of_stage (update_tasks_self _ stands _) rfl

end Session

namespace Cache

/-- A reader that goes on where a list is kept is given that list if and only if
its own fetch has brought one, and so is a call that asks for a capability.
Otherwise it is given an empty list or the failure of the fetch. -/
theorem resume_rechecks_iff (moves : List Move) {reader flight : Nat} {ending : Ending Octets}
    (awaits : (({} : Cache).run moves).awaited? reader = some flight)
    (ended : (({} : Cache).run moves).ending? flight = some ending) :
    let cache := ({} : Cache).run moves
    let given := (cache.apply (.resume reader)).readers[reader]?
    let brought := ∃ list, list ≠ [] ∧ ending = .value list
    (cache.stored ≠ [] → (given = some (.finished (.value cache.stored)) ↔ brought)) ∧
      (brought → cache.stored ≠ []) ∧
      (¬brought → given = some (.finished ending)) ∧
      ∀ {Far Held : Type} (line : Line Far Held) (session : Session Far Held) (index : Nat)
        (capability : String) (deadline : Option Deadline), session.cache = cache →
        session.tasks[index]? = some
          { work := .call (.supports capability) deadline
            stage := .listing reader
            isRoused := true } →
        brought →
        (session.perform line (.wake index)).ending? index =
          some (.value (.truth (advertises cache.stored capability))) := by
  intro cache given brought
  have remembers : cache.Remembers := Remembers.start.run moves
  have settled : given = some (.finished (cache.outcome ending)) := by
    have placed := awaited?_eq_some_iff.mp awaits
    change (cache.apply (.resume reader)).readers[reader]? = _
    rw [remembers.apply_resume awaits ended]
    exact readers_setReader placed _
  refine ⟨?_, ?_, ?_, ?_⟩
  · intro kept
    rw [settled]
    constructor
    · intro same
      by_cases came : brought
      · exact came
      · rw [outcome_of_none came] at same
        exact ⟨cache.stored, kept, Reader.finished.inj (Option.some.inj same)⟩
    · rintro ⟨list, full, rfl⟩
      rw [outcome_of_list full]
  · rintro ⟨list, full, rfl⟩
    exact remembers.stored_ne_nil full ended
  · intro nothing
    rw [settled, outcome_of_none nothing]
  · rintro Far Held line session index capability deadline served stands ⟨list, full, rfl⟩
    have known : session.cache.Remembers := by
      rw [served]
      exact remembers
    have waits : session.cache.awaited? reader = some flight := by
      rw [served]
      exact awaits
    have landed : session.cache.ending? flight = some (.value list) := by
      rw [served]
      exact ended
    rw [← served]
    exact Session.perform_wake_supports known stands waits landed full

/-- The fetch brought one list and another one was put into the cache after it. -/
theorem resume_rechecks_replaced :
    let moves : List Move := [.ask, .launch 0, .land 0 (.value [65]), .replace [66]]
    let cache := ({} : Cache).run moves
    cache.awaited? 0 = some 0 ∧ cache.ending? 0 = some (.value [65]) ∧
      (cache.apply (.resume 0)).readers[0]? = some (.finished (.value [66])) := by
  intro moves cache
  have awaits : cache.awaited? 0 = some 0 := by decide
  have ended : cache.ending? 0 = some (.value [65]) := by decide
  have kept : cache.stored ≠ [] := by decide
  obtain ⟨rechecks, _⟩ := resume_rechecks_iff moves awaits ended
  exact ⟨awaits, ended, (rechecks kept).mpr ⟨[65], by decide, rfl⟩⟩

/-- A list is put into the cache while a fetch is under way, and the fetch then
brings an empty list, or fails.  Its reader is given that and not the list. -/
theorem resume_ignores_replaced :
    let failure : Ending Octets := .failed ⟨.plain .runtime "down", none⟩
    let moves : Ending Octets → List Move :=
      fun ending => [.ask, .launch 0, .replace [65], .land 0 ending]
    let cache : Ending Octets → Cache := fun ending => ({} : Cache).run (moves ending)
    (Move.close ∉ moves (.value []) ∧ (cache (.value [])).awaited? 0 = some 0 ∧
      (cache (.value [])).ending? 0 = some (.value []) ∧ (cache (.value [])).stored = [65] ∧
      ((cache (.value [])).apply (.resume 0)).readers[0]? = some (.finished (.value []))) ∧
    Move.close ∉ moves failure ∧ (cache failure).awaited? 0 = some 0 ∧
      (cache failure).ending? 0 = some failure ∧ (cache failure).stored = [65] ∧
      ((cache failure).apply (.resume 0)).readers[0]? = some (.finished failure) := by
  decide

end Cache

end Scep
