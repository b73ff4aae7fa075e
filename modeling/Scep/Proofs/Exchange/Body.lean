import Scep.Exchange.Delivery

/-!
The whole body of a delivery, whatever its codings.

A client receives a payload exactly if the body comes to its end within the
limit, and the payload is then the whole body and never a part of it.
-/

namespace Scep

def decodeBody : List Coding → List Octets → Option Octets
  | _, [] => some []
  | codings, piece :: rest =>
    match decodePiece codings piece with
    | .error _ => none
    | .ok (codings, data) => (decodeBody codings rest).map (data ++ ·)

/-- The data of the whole body, if the body comes to its end. -/
def Delivery.body? (delivery : Delivery) : Option Octets :=
  match delivery.fault with
  | some _ => none
  | none => decodeBody delivery.headers.codings delivery.pieces

variable {limit size pulled : Nat} {fault : Option Fault} {codings : List Coding}
  {done : List Octets}

theorem readPieces_complete_iff (pieces : List Octets) (fits : size ≤ limit) (octets : Octets) :
    ((readPieces limit fault codings done size pulled pieces).shortfall = none ∧
        (readPieces limit fault codings done size pulled pieces).octets = octets) ↔
      fault = none ∧ ∃ body, decodeBody codings pieces = some body ∧
        size + body.length ≤ limit ∧ octets = done.reverse.flatten ++ body := by
  induction pieces generalizing codings done size pulled with
  | nil =>
      simp only [readPieces, Reading.octets, decodeBody, Option.map_eq_none_iff]
      constructor
      · rintro ⟨unbroken, same⟩
        exact ⟨unbroken, [], rfl, fits, by rw [← same, List.append_nil]⟩
      · rintro ⟨unbroken, body, empty, _, same⟩
        rw [← Option.some.inj empty, List.append_nil] at same
        exact ⟨unbroken, same.symm⟩
  | cons piece rest ih =>
      cases decoded : decodePiece codings piece with
      | error reason =>
          simp only [readPieces, decodeBody, decoded]
          constructor
          · rintro ⟨broken, _⟩
            cases broken
          · rintro ⟨_, body, undone, _⟩
            cases undone
      | ok result =>
          obtain ⟨later, data⟩ := result
          simp only [readPieces, decodeBody, decoded, Option.map_eq_some_iff]
          -- A piece that goes beyond the limit ends the reading, whatever comes after it.
          by_cases beyond : limit < size + data.length
          · rw [if_pos beyond]
            constructor
            · rintro ⟨short, _⟩
              cases short
            · rintro ⟨_, body, ⟨tail, _, whole⟩, within, _⟩
              rw [← whole, List.length_append] at within
              omega
          · rw [if_neg beyond, ih (Nat.not_lt.mp beyond)]
            simp only [List.reverse_cons, List.flatten_append, List.flatten_cons, List.flatten_nil,
              List.append_nil, List.append_assoc]
            constructor
            · rintro ⟨unbroken, tail, undone, within, same⟩
              refine ⟨unbroken, data ++ tail, ⟨tail, undone, rfl⟩, ?_, same⟩
              rw [List.length_append]
              omega
            · rintro ⟨unbroken, body, ⟨tail, undone, whole⟩, within, same⟩
              rw [← whole, List.length_append] at within
              exact ⟨unbroken, tail, undone, by omega, by rw [same, ← whole]⟩

namespace Delivery

variable {delivery : Delivery} {operation : Option Operation}

theorem read_complete_iff (delivery : Delivery) (limit : Nat) (octets : Octets) :
    ((delivery.read limit).shortfall = none ∧ (delivery.read limit).octets = octets) ↔
      delivery.body? = some octets ∧ octets.length ≤ limit := by
  rw [Delivery.read, readPieces_complete_iff delivery.pieces (Nat.zero_le limit) octets]
  simp only [Nat.zero_add, List.reverse_nil, List.flatten_nil, List.nil_append, body?]
  cases delivery.fault with
  | some fault =>
      constructor
      · rintro ⟨unbroken, _⟩
        cases unbroken
      · rintro ⟨whole, _⟩
        cases whole
  | none =>
      constructor
      · rintro ⟨_, body, whole, within, rfl⟩
        exact ⟨whole, within⟩
      · rintro ⟨whole, within⟩
        exact ⟨rfl, octets, whole, within, rfl⟩

theorem payload_eq_ok_iff (delivery : Delivery) (limit : Nat) (octets : Octets) :
    (delivery.read limit).payload limit = .ok octets ↔
      delivery.body? = some octets ∧ octets.length ≤ limit := by
  rw [← read_complete_iff delivery limit octets, Reading.payload]
  cases (delivery.read limit).shortfall with
  | none => simp only [Except.ok.injEq, true_and]
  | some shortfall =>
      constructor
      · intro complete
        cases shortfall with
        | tooLong => cases complete
        | broken fault =>
            dsimp only at complete
            split at complete <;> cases complete
      · rintro ⟨complete, _⟩
        cases complete

/-- What is received is the whole body of a response that is no error. -/
theorem of_receive_eq_ok {response : Response}
    (received : (delivery.receive operation).outcome = .ok response) :
    delivery.status < 400 ∧ delivery.body? = some response.data ∧
      response.data.length ≤ payloadLimit ∧ response.error = none := by
  by_cases failed : 400 ≤ delivery.status
  · rw [receive_of_failed operation failed] at received
    dsimp only at received
    cases snippet : (delivery.read snippetLimit).snippet snippetLimit with
    | error raised =>
        rw [snippet] at received
        cases received
    | ok data =>
        rw [snippet] at received
        cases received
  · rw [receive_of_fine operation failed] at received
    dsimp only at received
    cases payload : (delivery.read payloadLimit).payload payloadLimit with
    | error raised =>
        rw [payload] at received
        cases received
    | ok data =>
        rw [payload] at received
        obtain ⟨whole, within⟩ := (payload_eq_ok_iff delivery payloadLimit data).mp payload
        cases received
        exact ⟨Int.not_le.mp failed, whole, within, rfl⟩

theorem receive_of_body {body : Octets} (fine : delivery.status < 400)
    (whole : delivery.body? = some body) (within : body.length ≤ payloadLimit) :
    ∃ response, (delivery.receive operation).outcome = .ok response ∧ response.data = body := by
  have payload := (payload_eq_ok_iff delivery payloadLimit body).mpr ⟨whole, within⟩
  rw [receive_of_fine operation (Int.not_le.mpr fine)]
  dsimp only
  rw [payload]
  exact ⟨_, rfl, rfl⟩

end Delivery

end Scep
