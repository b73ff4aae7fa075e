import Scep.Proofs.Cache.Change
import Scep.Proofs.Cache.SingleFlight

/-!
A cache remembers: once a fetch has brought a list, a list is kept for good.

This holds whether or not the cache is closed meanwhile.  It is why a reader
that goes on after such a fetch finds a list and never has another fetch
created.
-/

namespace Scep.Cache

variable {cache : Cache}

/-! ### Fetches that brought a list -/

theorem Flight.isFruitful_iff {flight : Flight} :
    flight.isFruitful = true ↔ ∃ list, list ≠ [] ∧ flight.ending? = some (.value list) := by
  unfold isFruitful
  constructor
  · intro fruitful
    split at fruitful
    · rename_i first rest ended
      exact ⟨first :: rest, List.cons_ne_nil first rest, ended⟩
    · cases fruitful
  · rintro ⟨list, given, ended⟩
    rw [ended]
    cases list with
    | nil => exact absurd rfl given
    | cons first rest => rfl

/-- A list is kept if any fetch has brought one. -/
def Remembers (cache : Cache) : Prop :=
  ∀ flight ∈ cache.flights, flight.isFruitful = true → cache.stored ≠ []

namespace Remembers

theorem start : Remembers {} := by
  intro flight member
  cases member

theorem congr (remembers : cache.Remembers) {other : Cache}
    (flights : other.flights = cache.flights)
    (stored : cache.stored ≠ [] → other.stored ≠ []) : other.Remembers := by
  intro flight member fruitful
  rw [flights] at member
  exact stored (remembers flight member fruitful)

private theorem modify (remembers : cache.Remembers) {other : Cache} {index : Nat} {flight : Flight}
    {change : Flight → Flight} (placed : cache.flights[index]? = some flight)
    (flights : other.flights = cache.flights.modify index change)
    (stored : cache.stored ≠ [] → other.stored ≠ [])
    (brought : (change flight).isFruitful = true → other.stored ≠ []) : other.Remembers := by
  intro item member fruitful
  rw [flights] at member
  rcases mem_modify placed member with changed | old
  · rw [changed] at fruitful
    exact brought fruitful
  · exact stored (remembers item old fruitful)

theorem apply (remembers : cache.Remembers) (move : Move) : (cache.apply move).Remembers := by
  have change := cache.change_apply move
  generalize cache.apply move = next at change ⊢
  cases change with
  | same stored slot flights =>
      exact remembers.congr flights fun kept => by rw [stored]; exact kept
  | put given => exact remembers.congr rfl fun _ => given
  | created missing free stored slot flights =>
      intro item member fruitful
      rw [flights] at member
      rcases List.mem_append.mp member with old | new
      -- A fetch is created only where no list is kept, so none before it has brought one.
      · exact absurd missing (remembers item old fruitful)
      · rw [List.mem_singleton.mp new] at fruitful
        cases fruitful
  | launched placed => exact remembers.modify placed rfl id (by intro brought; cases brought)
  | skipped placed => exact remembers.modify placed rfl id (by intro brought; cases brought)
  | landed placed =>
      exact remembers.modify placed (cache.land_flights _ _) (cache.land_keeps _ _)
        (cache.land_brings _ _)
  | @stopped index next taken stored slot flights =>
      cases placed : cache.flights[index]? with
      | none =>
          rw [List.modify_eq_self (List.getElem?_eq_none_iff.mp placed)] at flights
          exact remembers.congr flights fun kept => by rw [stored]; exact kept
      | some item =>
          refine remembers.modify placed flights (fun kept => by rw [stored]; exact kept) ?_
          intro brought
          rw [stored]
          exact remembers item (List.mem_of_getElem? placed) brought
  | freed resumed stored slot flights =>
      exact remembers.congr flights fun kept => by rw [stored]; exact kept

theorem run (remembers : cache.Remembers) (moves : List Move) : (cache.run moves).Remembers := by
  induction moves generalizing cache with
  | nil => exact remembers
  | cons move rest ih =>
      rw [run_cons]
      exact ih (remembers.apply move)

end Remembers

/-! ### Readers that go on -/

theorem Remembers.stored_ne_nil (remembers : cache.Remembers) {flight : Nat} {list : Octets}
    (given : list ≠ []) (ended : cache.ending? flight = some (.value list)) :
    cache.stored ≠ [] := by
  obtain ⟨landed, placed, landing⟩ := Option.bind_eq_some_iff.mp ended
  exact remembers landed (List.mem_of_getElem? placed)
    (Flight.isFruitful_iff.mpr ⟨list, given, landing⟩)

/-- What a reader is given whose fetch has ended: the list that is kept if the
fetch has brought one, and otherwise the end of the fetch itself. -/
def outcome (cache : Cache) : Ending Octets → Ending Octets
  | .value (_ :: _) => .value cache.stored
  | ending => ending

theorem outcome_of_list {list : Octets} (given : list ≠ []) :
    cache.outcome (.value list) = .value cache.stored := by
  cases list with
  | nil => exact absurd rfl given
  | cons first rest => rfl

theorem outcome_of_none {ending : Ending Octets}
    (fruitless : ¬∃ list, list ≠ [] ∧ ending = .value list) : cache.outcome ending = ending := by
  cases ending with
  | failed raised => rfl
  | cancelled => rfl
  | value list =>
      cases list with
      | nil => rfl
      | cons first rest => exact absurd ⟨_, List.cons_ne_nil first rest, rfl⟩ fruitless

theorem Remembers.apply_resume (remembers : cache.Remembers) {reader flight : Nat}
    {ending : Ending Octets} (awaits : cache.awaited? reader = some flight)
    (ended : cache.ending? flight = some ending) :
    cache.apply (.resume reader) = cache.setReader reader (.finished (cache.outcome ending)) := by
  have resumed : (cache.awaited? reader).bind cache.ending? = some ending := by
    rw [awaits]
    exact ended
  simp only [Cache.apply, resumed]
  cases ending with
  | failed raised => rfl
  | cancelled => rfl
  | value list =>
      cases list with
      | nil => rfl
      | cons first rest =>
          rw [settle, look_kept (remembers.stored_ne_nil (List.cons_ne_nil first rest) ended)]
          rfl

theorem readers_setReader {reader : Nat} {stands : Reader}
    (placed : cache.readers[reader]? = some stands) (next : Reader) :
    (cache.setReader reader next).readers[reader]? = some next :=
  List.getElem?_set_self (List.getElem?_eq_some_iff.mp placed).1

end Scep.Cache
