import Scep.Proofs.Exchange.Body
import Scep.Proofs.Exchange.Receipt
import Scep.Proofs.Responder.Route

/-!
The payload limit at both ends of an exchange.

A posted body is measured while its pieces come in, and again when the message is
taken out of it.  A client measures the data of a response after its codings are
undone.  The three measures agree: each lets through what `Message.ofBody` lets
through and refuses anything else with the same fault.
-/

namespace Scep

variable {limit size pulled : Nat} {fault : Option Fault} {codings : List Coding}
  {done : List Octets}

private theorem Crosses.unique {pieces : List Octets} {first second : Nat}
    (one : Crosses limit pieces first) (other : Crosses limit pieces second) : first = second := by
  rcases Nat.lt_trichotomy first second with less | same | more
  · exact absurd one.beyond (Nat.not_lt.mpr (other.within first less))
  · exact same
  · exact absurd other.beyond (Nat.not_lt.mpr (one.within second more))

/-! ### At the client -/

private theorem readPieces_tooLong {pieces : List Octets} {body : Octets}
    (decoded : decodeBody codings pieces = some body) (fits : size ≤ limit)
    (beyond : limit < size + body.length) :
    (readPieces limit fault codings done size pulled pieces).shortfall = some .tooLong := by
  induction pieces generalizing codings done size pulled body with
  | nil =>
      rw [← Option.some.inj decoded, List.length_nil, Nat.add_zero] at beyond
      exact absurd beyond (Nat.not_lt.mpr fits)
  | cons piece rest ih =>
      simp only [decodeBody] at decoded
      cases undone : decodePiece codings piece with
      | error reason =>
          rw [undone] at decoded
          cases decoded
      | ok result =>
          obtain ⟨later, data⟩ := result
          rw [undone] at decoded
          obtain ⟨tail, after, whole⟩ := Option.map_eq_some_iff.mp decoded
          rw [← whole, List.length_append] at beyond
          simp only [readPieces, undone]
          by_cases here : limit < size + data.length
          · rw [if_pos here]
          · rw [if_neg here]
            exact ih after (Nat.not_lt.mp here) (by omega)

namespace Delivery

variable {delivery : Delivery} {body : Octets}

private theorem read_tooLong (whole : delivery.body? = some body) (beyond : limit < body.length) :
    (delivery.read limit).shortfall = some .tooLong := by
  unfold body? at whole
  cases broken : delivery.fault with
  | some fault =>
      rw [broken] at whole
      cases whole
  | none =>
      rw [broken] at whole
      exact readPieces_tooLong whole (Nat.zero_le limit) (by omega)

private theorem payload_of_body (whole : delivery.body? = some body) :
    (delivery.read payloadLimit).payload payloadLimit = Message.ofBody body := by
  unfold Message.ofBody
  by_cases beyond : payloadLimit < body.length
  · rw [if_pos beyond, Reading.payload, read_tooLong whole beyond]
  · rw [if_neg beyond]
    exact (payload_eq_ok_iff delivery payloadLimit body).mpr ⟨whole, Nat.not_lt.mp beyond⟩

theorem receive_of_payload (fine : delivery.status < 400) (operation : Option Operation) :
    (delivery.receive operation).outcome.map Response.data =
      (delivery.read payloadLimit).payload payloadLimit := by
  rw [receive_of_fine operation (Int.not_le.mpr fine)]
  dsimp only
  cases (delivery.read payloadLimit).payload payloadLimit with
  | error raised => rfl
  | ok data => rfl

end Delivery

/-! ### At the responder -/

namespace Route

variable {arrival : Arrival}

private theorem isPlain_nil : Headers.IsPlain [] := fun _ member => absurd member List.not_mem_nil

/-- A posted body is read as that of a response without codings would be. -/
theorem readBody_eq_read (posted : arrival.method = "POST") :
    readBody arrival = ({ status := 200, pieces := arrival.pieces } : Delivery).read payloadLimit := by
  unfold readBody
  rw [posted]
  rfl

/-- The message of a posted request is its whole body, however that is cut, if it
keeps the limit, and otherwise it is refused at the first piece that goes beyond
the limit.  A body that was read to its end is not refused after that.  A client
that receives the same octets, with whatever codings, comes to the same outcome. -/
theorem message_streamed (posted : arrival.method = "POST") :
    let body := arrival.pieces.flatten
    let reading := readBody arrival
    let outcome := message arrival reading
    outcome = Message.ofRequest "POST" arrival.params body ∧
      (body.length ≤ payloadLimit →
        outcome = .ok body ∧ reading.pulled = arrival.pieces.length) ∧
      (payloadLimit < body.length →
        outcome = .error ⟨.failure (.payloadTooLarge payloadLimit), none⟩ ∧
          Crosses payloadLimit arrival.pieces reading.pulled) ∧
      (∀ pieces : List Octets, pieces.flatten = body →
        let other := { arrival with pieces }
        message other (readBody other) = outcome) ∧
      (∀ accepted, reading.payload payloadLimit = .ok accepted →
        Message.ofRequest "POST" arrival.params accepted = .ok accepted) ∧
      ∀ (delivery : Delivery) (operation : Option Operation), delivery.status < 400 →
        delivery.body? = some body →
        (delivery.receive operation).outcome.map Response.data = outcome := by
  intro body reading outcome
  let delivery : Delivery := { status := 200, pieces := arrival.pieces }
  have read : reading = delivery.read payloadLimit := readBody_eq_read posted
  have plain : delivery.headers.IsPlain := isPlain_nil
  have carried : ∀ other : Arrival, other.method = Method.post.name →
      message other (readBody other) = Message.ofBody other.pieces.flatten :=
    fun _ asks => message_carried asks
  have whole : outcome = Message.ofBody body := carried arrival posted
  refine ⟨whole, fun within => ⟨?_, ?_⟩, fun beyond => ⟨?_, ?_⟩, ?_, ?_, ?_⟩
  · rw [whole]
    exact if_neg (Nat.not_lt.mpr within)
  · rw [read]
    exact (Delivery.read_plain_within plain within).2.2
  · rw [whole]
    exact if_pos beyond
  · rw [read]
    exact (Delivery.read_plain_beyond plain beyond).2.2
  · intro pieces same other
    rw [whole, carried other posted]
    exact congrArg Message.ofBody same
  · intro accepted taken
    rw [read] at taken
    have within := ((Delivery.payload_eq_ok_iff delivery payloadLimit accepted).mp taken).2
    exact if_neg (Nat.not_lt.mpr within)
  · intro received operation fine complete
    rw [Delivery.receive_of_payload fine, Delivery.payload_of_body complete, whole]

/-- Two mebibytes in two pieces, then an empty piece, and one octet too many. -/
theorem message_streamed_beyond :
    let before : List Octets := [List.replicate 1048576 0, List.replicate 1048576 0, []]
    let pieces := before ++ [1] :: [[2]]
    let arrival : Arrival := { method := "POST", host := "ca", path := [], pieces, mark := "" }
    arrival.method = "POST" ∧
      message arrival (readBody arrival) =
        .error ⟨.failure (.payloadTooLarge payloadLimit), none⟩ ∧
      (readBody arrival).pulled = 4 := by
  intro before pieces arrival
  have size : before.flatten.length = 2097152 := by
    simp only [before, List.flatten_cons, List.flatten_nil, List.length_append,
      List.length_replicate, List.length_nil]
  have beyond : payloadLimit < pieces.flatten.length := by
    rw [List.flatten_append, List.length_append, size]
    decide
  have crosses : Crosses payloadLimit pieces 4 :=
    crosses_of_split (Nat.le_of_eq size) (by rw [size]; decide)
  have posted : arrival.method = "POST" := rfl
  obtain ⟨_, _, refused, _⟩ := message_streamed posted
  exact ⟨posted, (refused beyond).1, (refused beyond).2.unique crosses⟩

end Route

end Scep
