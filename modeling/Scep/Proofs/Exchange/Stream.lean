import Scep.Exchange.Delivery

/-!
Bodies as they stream in, whether or not they come to their end.

A stream yields octets and then ends, by itself or in a fault.  A reader that has
not gone beyond its limit has met the end of the stream, so the fault in it is
what the reader tells of the body.
-/

namespace Scep

/-- The octets that some pieces yield once their codings are undone, and the fault
that they end in, if they do.  A piece whose codings cannot be undone ends the
stream. -/
def streamed (fault : Option Fault) : List Coding → List Octets → Octets × Option Fault
  | _, [] => ([], fault)
  | codings, piece :: rest =>
    match decodePiece codings piece with
    | .error reason => ([], some (.network .decodingError reason))
    | .ok (codings, data) =>
      let (octets, ending) := streamed fault codings rest
      (data ++ octets, ending)

variable {limit size pulled : Nat} {fault : Option Fault} {codings : List Coding}
  {done : List Octets}

private theorem readPieces_streamed (pieces : List Octets)
    (within : size + (streamed fault codings pieces).1.length ≤ limit) :
    let reading := readPieces limit fault codings done size pulled pieces
    reading.shortfall = (streamed fault codings pieces).2.map .broken ∧
      reading.octets = done.reverse.flatten ++ (streamed fault codings pieces).1 := by
  induction pieces generalizing codings done size pulled with
  | nil => exact ⟨rfl, (List.append_nil _).symm⟩
  | cons piece rest ih =>
      cases decoded : decodePiece codings piece with
      | error reason =>
          simp only [readPieces, streamed, decoded, Reading.octets, Option.map_some,
            List.append_nil, and_self]
      | ok result =>
          obtain ⟨later, data⟩ := result
          simp only [streamed, decoded, List.length_append] at within
          have fits : ¬limit < size + data.length := by omega
          obtain ⟨shortfall, octets⟩ :=
            @ih (size + data.length) (pulled + 1) later (data :: done) (by omega)
          simp only [readPieces, streamed, decoded, if_neg fits]
          refine ⟨shortfall, octets.trans ?_⟩
          simp only [List.reverse_cons, List.flatten_append, List.flatten_cons, List.flatten_nil,
            List.append_nil, List.append_assoc]

namespace Delivery

def stream (delivery : Delivery) : Octets × Option Fault :=
  streamed delivery.fault delivery.headers.codings delivery.pieces

/-- How much is read of a body: less if the status is that of an error. -/
def readLimit (delivery : Delivery) : Nat :=
  if 400 ≤ delivery.status then snippetLimit else payloadLimit

variable {delivery : Delivery} {octets : Octets} {fault : Fault}

private theorem read_streamed (ends : delivery.stream = (octets, some fault))
    (within : octets.length ≤ limit) :
    (delivery.read limit).shortfall = some (.broken fault) ∧
      (delivery.read limit).octets = octets := by
  have streams : streamed delivery.fault delivery.headers.codings delivery.pieces =
      (octets, some fault) := ends
  have fits : 0 + (streamed delivery.fault delivery.headers.codings delivery.pieces).1.length ≤
      limit := by
    rw [streams, Nat.zero_add]
    exact within
  obtain ⟨shortfall, read⟩ := @readPieces_streamed limit 0 0 delivery.fault
    delivery.headers.codings [] delivery.pieces fits
  rw [streams] at shortfall read
  exact ⟨shortfall, read⟩

def broken (delivery : Delivery) (octets : Octets) (fault : Fault) : Raised :=
  if fault.breaksBody then
    if 400 ≤ delivery.status then
      ⟨.failure (.httpStatus delivery.status delivery.phrase
        (String.ofList (Text.Utf8.decodeLossy octets))), none⟩
    else ⟨.failure (.readFailed fault.message), some fault⟩
  else ⟨fault, none⟩

theorem receive_broken (operation : Option Operation)
    (ends : delivery.stream = (octets, some fault))
    (within : octets.length ≤ delivery.readLimit) :
    (delivery.receive operation).outcome = .error (delivery.broken octets fault) := by
  unfold readLimit at within
  by_cases failed : 400 ≤ delivery.status
  · rw [if_pos failed] at within
    obtain ⟨shortfall, read⟩ := read_streamed ends within
    simp only [receive_of_failed operation failed, if_pos failed, Reading.snippet, shortfall, read,
      broken]
    cases fault.breaksBody with
    | false => rfl
    | true =>
        rw [List.take_of_length_le within]
        rfl
  · rw [if_neg failed] at within
    obtain ⟨shortfall, _⟩ := read_streamed ends within
    simp only [receive_of_fine operation failed, if_neg failed, Reading.payload, shortfall, broken]
    cases fault.breaksBody <;> rfl

end Delivery

end Scep
