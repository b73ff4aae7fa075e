import Scep.Exchange.Delivery

/-!
What a client reads of a body that travels without a coding.

The reading is determined by where the octets first go beyond the limit.  Up to
there every piece is taken as it is, so the cuts between pieces show in the
number of pieces taken and in nothing else.
-/

namespace Scep

/-! ### Pieces -/

theorem decodePiece_uncoded (piece : Octets) : decodePiece [] piece = .ok ([], piece) := by
  cases piece with
  | nil => rfl
  | cons first rest => rfl

variable {limit size : Nat} {fault : Option Fault} {done : List Octets} {pulled : Nat}

private theorem readPieces_cons_within {piece : Octets} {rest : List Octets}
    (within : size + piece.length ≤ limit) :
    readPieces limit fault [] done size pulled (piece :: rest) =
      readPieces limit fault [] (piece :: done) (size + piece.length) (pulled + 1) rest := by
  simp only [readPieces, decodePiece_uncoded, if_neg (Nat.not_lt.mpr within)]

private theorem readPieces_cons_beyond {piece : Octets} {rest : List Octets}
    (beyond : limit < size + piece.length) :
    readPieces limit fault [] done size pulled (piece :: rest) =
      ⟨piece :: done, size + piece.length, pulled + 1, some .tooLong⟩ := by
  simp only [readPieces, decodePiece_uncoded, if_pos beyond]

theorem readPieces_within (pieces : List Octets) (within : size + pieces.flatten.length ≤ limit) :
    readPieces limit fault [] done size pulled pieces =
      ⟨pieces.reverse ++ done, size + pieces.flatten.length, pulled + pieces.length,
        fault.map .broken⟩ := by
  induction pieces generalizing done size pulled with
  | nil => rfl
  | cons piece rest ih =>
      rw [List.flatten_cons, List.length_append, ← Nat.add_assoc] at within
      rw [readPieces_cons_within (by omega), ih within]
      simp only [List.reverse_cons, List.append_assoc, List.singleton_append, List.flatten_cons,
        List.length_append, List.length_cons, Reading.mk.injEq, true_and, and_true]
      constructor <;> omega

theorem readPieces_beyond (fault : Option Fault) (done : List Octets) (pulled : Nat)
    (pieces : List Octets) (fits : size ≤ limit)
    (beyond : limit < size + pieces.flatten.length) :
    ∃ before last after, pieces = before ++ last :: after ∧
      size + before.flatten.length ≤ limit ∧
      limit < size + before.flatten.length + last.length ∧
      readPieces limit fault [] done size pulled pieces =
        ⟨last :: (before.reverse ++ done), size + before.flatten.length + last.length,
          pulled + before.length + 1, some .tooLong⟩ := by
  induction pieces generalizing done size pulled with
  | nil =>
      rw [List.flatten_nil, List.length_nil, Nat.add_zero] at beyond
      exact absurd beyond (Nat.not_lt.mpr fits)
  | cons piece rest ih =>
      by_cases here : limit < size + piece.length
      · exact ⟨[], piece, rest, rfl, fits, here, readPieces_cons_beyond here⟩
      · have within : size + piece.length ≤ limit := Nat.not_lt.mp here
        rw [List.flatten_cons, List.length_append, ← Nat.add_assoc] at beyond
        obtain ⟨before, last, after, split, below, above, read⟩ :=
          ih (piece :: done) (pulled + 1) within beyond
        refine ⟨piece :: before, last, after, ?_, ?_, ?_, ?_⟩
        · rw [split, List.cons_append]
        · rw [List.flatten_cons, List.length_append]
          omega
        · rw [List.flatten_cons, List.length_append]
          omega
        · rw [readPieces_cons_within within, read]
          simp only [List.reverse_cons, List.append_assoc, List.singleton_append,
            List.flatten_cons, List.length_append, List.length_cons, Reading.mk.injEq, true_and,
            and_true]
          constructor <;> omega

/-! ### Deliveries without a coding -/

namespace Delivery

variable {delivery : Delivery}

private theorem read_uncoded (uncoded : delivery.headers.codings = []) :
    delivery.read limit = readPieces limit delivery.fault [] [] 0 0 delivery.pieces := by
  rw [Delivery.read, uncoded]

private theorem read_within (uncoded : delivery.headers.codings = [])
    (within : delivery.pieces.flatten.length ≤ limit) :
    (delivery.read limit).shortfall = delivery.fault.map .broken ∧
      (delivery.read limit).octets = delivery.pieces.flatten := by
  rw [read_uncoded uncoded, readPieces_within _ (by omega)]
  simp only [Reading.octets, List.append_nil, List.reverse_reverse, and_self]

/-- Of a longer body enough is read to go beyond the limit. -/
theorem read_beyond (uncoded : delivery.headers.codings = [])
    (beyond : limit < delivery.pieces.flatten.length) :
    (delivery.read limit).shortfall = some .tooLong ∧
      ∃ rest, delivery.pieces.flatten = (delivery.read limit).octets ++ rest ∧
        limit < (delivery.read limit).octets.length := by
  obtain ⟨before, last, after, split, _, above, read⟩ :=
    readPieces_beyond delivery.fault [] 0 delivery.pieces
      (Nat.zero_le limit) (by omega)
  rw [read_uncoded uncoded, read]
  have octets : (Reading.mk (last :: (before.reverse ++ []))
      (0 + before.flatten.length + last.length) (0 + before.length + 1)
      (some .tooLong)).octets = before.flatten ++ last := by
    simp only [Reading.octets, List.append_nil, List.reverse_cons, List.reverse_reverse,
      List.flatten_append, List.flatten_cons, List.flatten_nil]
  refine ⟨rfl, after.flatten, ?_, ?_⟩
  · rw [octets, split, List.flatten_append, List.flatten_cons, List.append_assoc]
  · rw [octets, List.length_append]
    omega

private theorem take_octets_read (uncoded : delivery.headers.codings = []) :
    (delivery.read limit).octets.take limit = delivery.pieces.flatten.take limit := by
  by_cases beyond : limit < delivery.pieces.flatten.length
  · obtain ⟨_, rest, whole, enough⟩ := read_beyond uncoded beyond
    rw [whole, List.take_append_of_le_length (Nat.le_of_lt enough)]
  · rw [(read_within uncoded (Nat.not_lt.mp beyond)).2]

/-! ### Outcomes -/

variable {operation : Option Operation}

theorem receive_failed (delivery : Delivery) (operation : Option Operation)
    (failed : 400 ≤ delivery.status)
    (uncoded : delivery.headers.codings = []) (unbroken : delivery.fault = none) :
    (delivery.receive operation).outcome =
      .error ⟨.failure (.httpStatus delivery.status delivery.phrase
        (String.ofList (Text.Utf8.decodeLossy (delivery.pieces.flatten.take snippetLimit)))),
        none⟩ := by
  have snippet : (delivery.read snippetLimit).snippet snippetLimit =
      .ok (delivery.pieces.flatten.take snippetLimit) := by
    by_cases beyond : snippetLimit < delivery.pieces.flatten.length
    · simp only [Reading.snippet, (read_beyond uncoded beyond).1, take_octets_read uncoded]
    · simp only [Reading.snippet, (read_within uncoded (Nat.not_lt.mp beyond)).1, unbroken,
        Option.map_none, take_octets_read uncoded]
  simp only [receive_of_failed operation failed, snippet]
  rfl

theorem receive_payload (fine : delivery.status < 400)
    (uncoded : delivery.headers.codings = []) (unbroken : delivery.fault = none)
    (within : delivery.pieces.flatten.length ≤ payloadLimit) :
    (delivery.receive operation).outcome =
      .ok {
        operation
        certificates :=
          if delivery.headers.value? "Content-Type" = some MediaType.caChain then chainHint else 0
        data := delivery.pieces.flatten } := by
  obtain ⟨complete, octets⟩ := read_within uncoded within
  have payload : (delivery.read payloadLimit).payload payloadLimit =
      .ok delivery.pieces.flatten := by
    simp only [Reading.payload, complete, unbroken, Option.map_none, octets]
  simp only [receive_of_fine operation (Int.not_le.mpr fine), payload, beq_iff_eq]
  rfl

theorem receive_tooLong (fine : delivery.status < 400)
    (uncoded : delivery.headers.codings = [])
    (beyond : payloadLimit < delivery.pieces.flatten.length) :
    (delivery.receive operation).outcome =
      .error ⟨.failure (.payloadTooLarge payloadLimit), none⟩ := by
  have payload : (delivery.read payloadLimit).payload payloadLimit =
      .error ⟨.failure (.payloadTooLarge payloadLimit), none⟩ := by
    simp only [Reading.payload, (read_beyond uncoded beyond).1]
  simp only [receive_of_fine operation (Int.not_le.mpr fine), payload]
  rfl

end Delivery

end Scep
