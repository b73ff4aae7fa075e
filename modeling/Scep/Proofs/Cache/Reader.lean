import Scep.Proofs.Cache.Departure

/-!
What a reader is told, and when.

A reader is changed by its own moves alone.  A newcomer is told a list only where
one is kept, and a reader that has waited is told what its fetch has brought, so
no reader is ever told that the list is empty unless a fetch has said so.
-/

namespace Scep.Cache

variable {cache : Cache} {reader other flight : Nat} {ending : Ending Octets} {list : Octets}

/-! ### Moves of other readers -/

theorem newcomer_ask (cache : Cache) :
    (cache.apply .ask).readers[cache.readers.length]? = some cache.look.2 := by
  rw [apply_ask]
  exact List.getElem?_concat_length

theorem reader_ask (inside : reader < cache.readers.length) :
    (cache.apply .ask).readers[reader]? = cache.readers[reader]? := by
  rw [apply_ask]
  exact List.getElem?_append_left inside

@[simp] theorem settle_readers (cache : Cache) (ending : Ending Octets) :
    (cache.settle ending).1.readers = cache.readers := by
  unfold settle
  split
  · exact cache.look_readers
  · rfl

theorem reader_resume_of_ne (different : other ≠ reader) :
    (cache.apply (.resume other)).readers[reader]? = cache.readers[reader]? := by
  simp only [apply]
  split
  · rename_i ending _
    change ((cache.settle ending).1.readers.set other _)[reader]? = _
    rw [settle_readers, List.getElem?_set_ne different]
  · rfl

theorem reader_abandon_of_ne (different : other ≠ reader) :
    (cache.apply (.abandon other)).readers[reader]? = cache.readers[reader]? := by
  rcases cache.abandon_or_same other with same | same
  · rw [same]
  · rw [same]
    exact List.getElem?_set_ne different

theorem apply_resume_of_absent
    (absent : (cache.apply (.resume reader)).readers[reader]? = none) :
    cache.apply (.resume reader) = cache := by
  cases resumed : (cache.awaited? reader).bind cache.ending? with
  | none => simp only [apply, resumed]
  | some ending =>
      obtain ⟨flight, awaits, _⟩ := Option.bind_eq_some_iff.mp resumed
      have placed : (cache.settle ending).1.readers[reader]? = some (.waiting flight) := by
        rw [settle_readers]
        exact awaited?_eq_some_iff.mp awaits
      simp only [apply, resumed] at absent
      rw [readers_setReader placed] at absent
      cases absent

theorem readers_run_of_apart {moves : List Move}
    (apart : ∀ move ∈ moves, move.isReaders = false) :
    (cache.run moves).readers = cache.readers := by
  induction moves generalizing cache with
  | nil => rfl
  | cons move rest ih =>
      rw [run_cons, ih (fun later member => apart later (List.mem_cons_of_mem _ member)),
        readers_of_apart (apart move List.mem_cons_self)]

/-! ### Readers that have waited -/

namespace Remembers

theorem told (remembers : cache.Remembers) (awaits : cache.readers[reader]? = some (.waiting flight))
    (told : (cache.apply (.resume reader)).readers[reader]? = some (.finished ending)) :
    ∃ landed, cache.ending? flight = some landed ∧ ending = cache.outcome landed := by
  cases ended : cache.ending? flight with
  | none =>
      rw [apply_resume_of_waiting awaits ended, awaits] at told
      cases told
  | some landed =>
      rw [remembers.apply_resume (awaited?_eq_some_iff.mpr awaits) ended,
        readers_setReader awaits] at told
      cases told
      exact ⟨landed, rfl, rfl⟩

theorem waits (remembers : cache.Remembers)
    (awaits : cache.readers[reader]? = some (.waiting flight))
    (waits : (cache.apply (.resume reader)).readers[reader]? = some (.waiting other)) :
    cache.ending? flight = none := by
  cases ended : cache.ending? flight with
  | none => rfl
  | some landed =>
      rw [remembers.apply_resume (awaited?_eq_some_iff.mpr awaits) ended,
        readers_setReader awaits] at waits
      cases waits

/-- A reader that is told a list has waited for a fetch that has brought it, or
another one that is kept now. -/
theorem told_value (remembers : cache.Remembers)
    (awaits : cache.readers[reader]? = some (.waiting flight))
    (told : (cache.apply (.resume reader)).readers[reader]? = some (.finished (.value list))) :
    ∃ brought, cache.ending? flight = some (.value brought) ∧
      (brought = [] ∧ list = [] ∨ brought ≠ [] ∧ list ≠ [] ∧ list = cache.stored) := by
  obtain ⟨landed, ended, same⟩ := remembers.told awaits told
  cases landed with
  | failed raised => cases same
  | cancelled => cases same
  | value brought =>
      refine ⟨brought, ended, ?_⟩
      cases brought with
      | nil =>
          cases same
          exact Or.inl ⟨rfl, rfl⟩
      | cons first rest =>
          cases same
          have kept := remembers.stored_ne_nil (List.cons_ne_nil first rest) ended
          exact Or.inr ⟨List.cons_ne_nil first rest, kept, rfl⟩

/-! ### Newcomers -/

theorem told_newcomer (remembers : cache.Remembers) (isOpen : cache.IsOpen)
    (told : ((cache.apply .ask).apply (.resume cache.readers.length)).readers[
      cache.readers.length]? = some (.finished (.value list))) :
    list ≠ [] ∧ list = cache.stored := by
  have place := cache.newcomer_ask
  by_cases missing : cache.stored = []
  · -- It joins a fetch that has brought nothing yet, so there is nothing to tell.
    obtain ⟨flight, looks, taken⟩ : ∃ flight, cache.look.2 = .waiting flight ∧
        cache.look.1.slot = some flight := by
      cases taken : cache.slot with
      | some flight =>
          rw [look_joins missing taken]
          exact ⟨flight, rfl, taken⟩
      | none =>
          rw [look_creates missing taken]
          exact ⟨_, rfl, rfl⟩
    rw [looks] at place
    obtain ⟨brought, ended, _⟩ := (remembers.apply .ask).told_value place told
    have slot : (cache.apply .ask).slot = some flight := by
      rw [apply_ask]
      exact taken
    exact absurd ended (isOpen.apply .ask flight brought slot)
  · rw [look_kept missing] at place
    rw [apply_resume_of_finished place, place] at told
    cases told
    exact ⟨missing, rfl⟩

end Remembers

end Scep.Cache
