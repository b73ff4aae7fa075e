import Scep.Proofs.Exchange.Delivery
import Scep.Proofs.Exchange.Stream

/-!
What is received of a body, however it is cut.

Pieces are taken from the transport until the body ends, breaks off or goes beyond
the limit.  Which of these it is follows from the octets that were delivered, so
the cuts between the pieces show in how many of them are taken and in nothing
else.
-/

namespace Scep

/-! ### Codings that leave a body as it is -/

def Headers.IsPlain (headers : Headers) : Prop := ∀ coding ∈ headers.codings, coding = .identity

private theorem Coding.decodeAll_of_identity {codings : List Coding}
    (plain : ∀ coding ∈ codings, coding = .identity) (piece : Octets) :
    Coding.decodeAll codings piece = .ok (codings, piece) := by
  induction codings with
  | nil => rfl
  | cons coding inner ih =>
      obtain rfl := plain coding List.mem_cons_self
      have later := ih fun other member => plain other (List.mem_cons_of_mem _ member)
      change (Coding.decodeAll inner piece >>= fun rest => _) = _
      rw [later]
      rfl

private theorem decodePiece_of_identity {codings : List Coding}
    (plain : ∀ coding ∈ codings, coding = .identity) (piece : Octets) :
    decodePiece codings piece = .ok (codings, piece) := by
  cases piece with
  | nil => rfl
  | cons first rest => exact Coding.decodeAll_of_identity plain (first :: rest)

private theorem readPieces_of_identity {codings : List Coding} {limit size pulled : Nat}
    {fault : Option Fault} {done : List Octets}
    (plain : ∀ coding ∈ codings, coding = .identity) (pieces : List Octets) :
    readPieces limit fault codings done size pulled pieces =
      readPieces limit fault [] done size pulled pieces := by
  induction pieces generalizing done size pulled with
  | nil => rfl
  | cons piece rest ih =>
      simp only [readPieces, decodePiece_of_identity plain, decodePiece_uncoded, ih]

/-! ### Pieces taken from the transport -/

/-- So many pieces, and no fewer, hold more octets than the limit allows. -/
structure Crosses (limit : Nat) (pieces : List Octets) (count : Nat) : Prop where
  beyond : limit < (pieces.take count).flatten.length
  within : ∀ fewer < count, (pieces.take fewer).flatten.length ≤ limit

private theorem length_flatten_take_le (pieces : List Octets) (count : Nat) :
    (pieces.take count).flatten.length ≤ pieces.flatten.length := by
  have split := congrArg List.flatten (List.take_append_drop count pieces)
  rw [List.flatten_append] at split
  rw [← split, List.length_append]
  exact Nat.le_add_right _ _

theorem crosses_of_split {limit : Nat} {before after : List Octets} {last : Octets}
    (below : before.flatten.length ≤ limit)
    (above : limit < before.flatten.length + last.length) :
    Crosses limit (before ++ last :: after) (before.length + 1) where
  beyond := by
    rw [List.take_length_add_append, List.take_succ_cons, List.take_zero, List.flatten_append,
      List.flatten_singleton, List.length_append]
    exact above
  within := by
    intro fewer less
    rw [List.take_append_of_le_length (Nat.le_of_lt_succ less)]
    exact Nat.le_trans (length_flatten_take_le before fewer) below

/-! ### The body that was read -/

inductive Fault.BreaksOff : Fault → Prop where
  | readError (message : String) : BreaksOff (.network .readError message)
  | remoteProtocolError (message : String) : BreaksOff (.network .remoteProtocolError message)
  | decodingError (message : String) : BreaksOff (.network .decodingError message)

theorem Fault.breaksOff_iff (fault : Fault) : fault.BreaksOff ↔ fault.breaksBody = true := by
  constructor
  · intro breaks
    cases breaks <;> rfl
  · intro breaks
    cases fault with
    | network kind message =>
        cases kind with
        | readError => exact .readError message
        | remoteProtocolError => exact .remoteProtocolError message
        | decodingError => exact .decodingError message
        | _ => cases breaks
    | _ => cases breaks

namespace Delivery

variable {delivery : Delivery} {limit : Nat}

private theorem read_plain (plain : delivery.headers.IsPlain) (limit : Nat) :
    delivery.read limit = readPieces limit delivery.fault [] [] 0 0 delivery.pieces :=
  readPieces_of_identity plain delivery.pieces

theorem read_plain_within (plain : delivery.headers.IsPlain)
    (within : delivery.pieces.flatten.length ≤ limit) :
    (delivery.read limit).shortfall = delivery.fault.map .broken ∧
      (delivery.read limit).octets = delivery.pieces.flatten ∧
      (delivery.read limit).pulled = delivery.pieces.length := by
  rw [read_plain plain, readPieces_within _ (by omega)]
  simp only [Reading.octets, List.append_nil, List.reverse_reverse, Nat.zero_add, and_self]

theorem read_plain_beyond (plain : delivery.headers.IsPlain)
    (beyond : limit < delivery.pieces.flatten.length) :
    (delivery.read limit).shortfall = some .tooLong ∧
      (delivery.read limit).octets.take limit = delivery.pieces.flatten.take limit ∧
      Crosses limit delivery.pieces (delivery.read limit).pulled := by
  obtain ⟨before, last, after, split, below, above, read⟩ :=
    readPieces_beyond delivery.fault [] 0 delivery.pieces (Nat.zero_le limit) (by omega)
  rw [Nat.zero_add] at below above
  have octets : (delivery.read limit).octets = before.flatten ++ last := by
    rw [read_plain plain, read]
    simp only [Reading.octets, List.append_nil, List.reverse_cons, List.reverse_reverse,
      List.flatten_append, List.flatten_cons, List.flatten_nil]
  have whole : delivery.pieces.flatten = (delivery.read limit).octets ++ after.flatten := by
    rw [octets, split, List.flatten_append, List.flatten_cons, List.append_assoc]
  have enough : limit ≤ (delivery.read limit).octets.length := by
    rw [octets, List.length_append]
    exact Nat.le_of_lt above
  refine ⟨?_, ?_, ?_⟩
  · rw [read_plain plain, read]
  · rw [whole, List.take_append_of_le_length enough]
  · have pulled : (delivery.read limit).pulled = before.length + 1 := by
      rw [read_plain plain, read]
      exact congrArg (· + 1) (Nat.zero_add before.length)
    rw [pulled, split]
    exact crosses_of_split below above

/-! ### What is made of it -/

/-- What is made of a response by the octets of its body alone. -/
def outcomeOf (delivery : Delivery) (operation : Option Operation) (body : Octets) :
    Except Raised Response :=
  let refused := Except.error ⟨.failure (.httpStatus delivery.status delivery.phrase
    (String.ofList (Text.Utf8.decodeLossy (body.take snippetLimit)))), none⟩
  if 400 ≤ delivery.status then
    match delivery.fault with
    | none => refused
    | some fault =>
      if body.length ≤ snippetLimit ∧ fault.breaksBody = false then .error ⟨fault, none⟩
      else refused
  else if payloadLimit < body.length then
    .error ⟨.failure (.payloadTooLarge payloadLimit), none⟩
  else
    match delivery.fault with
    | none =>
      .ok {
        operation
        certificates :=
          if delivery.headers.value? "Content-Type" = some MediaType.caChain then chainHint else 0
        data := body }
    | some fault =>
      if fault.breaksBody then .error ⟨.failure (.readFailed fault.message), some fault⟩
      else .error ⟨fault, none⟩

variable {operation : Option Operation}

theorem receive_failed_plain (plain : delivery.headers.IsPlain) (failed : 400 ≤ delivery.status) :
    (delivery.receive operation).outcome =
      delivery.outcomeOf operation delivery.pieces.flatten := by
  simp only [receive_of_failed operation failed, outcomeOf, if_pos failed]
  by_cases beyond : snippetLimit < delivery.pieces.flatten.length
  · obtain ⟨shortfall, octets, _⟩ := read_plain_beyond plain beyond
    have unbounded : ∀ fault : Fault,
        ¬(delivery.pieces.flatten.length ≤ snippetLimit ∧ fault.breaksBody = false) :=
      fun _ both => Nat.not_lt.mpr both.1 beyond
    simp only [Reading.snippet, shortfall, octets, if_neg (unbounded _)]
    cases delivery.fault <;> rfl
  · have within := Nat.not_lt.mp beyond
    obtain ⟨shortfall, octets, _⟩ := read_plain_within plain within
    simp only [Reading.snippet, shortfall, octets]
    cases delivery.fault with
    | none => rfl
    | some fault =>
        simp only [Option.map_some, within, true_and]
        cases fault.breaksBody <;> rfl

theorem receive_fine_plain (plain : delivery.headers.IsPlain) (fine : delivery.status < 400) :
    (delivery.receive operation).outcome =
      delivery.outcomeOf operation delivery.pieces.flatten := by
  simp only [receive_of_fine operation (Int.not_le.mpr fine), outcomeOf,
    if_neg (Int.not_le.mpr fine)]
  by_cases beyond : payloadLimit < delivery.pieces.flatten.length
  · simp only [Reading.payload, (read_plain_beyond plain beyond).1, if_pos beyond]
    rfl
  · obtain ⟨shortfall, octets, _⟩ := read_plain_within plain (Nat.not_lt.mp beyond)
    simp only [Reading.payload, shortfall, octets, if_neg beyond]
    cases delivery.fault with
    | none =>
        simp only [Option.map_none, beq_iff_eq]
        rfl
    | some fault => cases breaks : fault.breaksBody <;> simp only [Option.map_some, breaks] <;> rfl

theorem receive_plain (plain : delivery.headers.IsPlain) (operation : Option Operation) :
    (delivery.receive operation).outcome =
      delivery.outcomeOf operation delivery.pieces.flatten := by
  rcases Int.lt_or_le delivery.status 400 with fine | failed
  · exact receive_fine_plain plain fine
  · exact receive_failed_plain plain failed

theorem receive_pulled (delivery : Delivery) (operation : Option Operation) :
    (delivery.receive operation).pulled = (delivery.read delivery.readLimit).pulled ∧
      (delivery.receive operation).closed = true := by
  unfold readLimit
  by_cases failed : 400 ≤ delivery.status
  · simp only [receive_of_failed operation failed, if_pos failed, and_self]
  · simp only [receive_of_fine operation failed, if_neg failed, and_self]

/-- The octets that came before the end or the fault decide what is received.  A
payload beyond the limit is refused whatever would follow, and within it the
fault counts.  With an error status the body is only a diagnosis, which is cut at
its limit and where it breaks off.  No more pieces are taken than it needs to go
beyond the limit, and the response is closed in every case. -/
theorem receive_delivered (delivery : Delivery) (operation : Option Operation)
    (plain : delivery.headers.IsPlain) :
    let body := delivery.pieces.flatten
    let receipt := delivery.receive operation
    (delivery.status < 400 →
      (payloadLimit < body.length →
        receipt.outcome = .error ⟨.failure (.payloadTooLarge payloadLimit), none⟩) ∧
      (body.length ≤ payloadLimit →
        (∀ fault, delivery.fault = some fault →
          (fault.BreaksOff →
            receipt.outcome = .error ⟨.failure (.readFailed fault.message), some fault⟩) ∧
          (¬fault.BreaksOff → receipt.outcome = .error ⟨fault, none⟩)) ∧
        (delivery.fault = none →
          receipt.outcome = .ok {
            operation
            certificates :=
              if delivery.headers.value? "Content-Type" = some MediaType.caChain then 2 else 0
            data := body }))) ∧
    (400 ≤ delivery.status →
      (snippetLimit < body.length ∨ (∀ fault, delivery.fault = some fault → fault.BreaksOff) →
        receipt.outcome = .error ⟨.failure (.httpStatus delivery.status delivery.phrase
          (String.ofList (Text.Utf8.decodeLossy (body.take snippetLimit)))), none⟩) ∧
      (body.length ≤ snippetLimit → ∀ fault, delivery.fault = some fault → ¬fault.BreaksOff →
        receipt.outcome = .error ⟨fault, none⟩)) ∧
    receipt.closed = true ∧
    (body.length ≤ delivery.readLimit → receipt.pulled = delivery.pieces.length) ∧
    (delivery.readLimit < body.length →
      Crosses delivery.readLimit delivery.pieces receipt.pulled) ∧
    ∀ pieces : List Octets, pieces.flatten = body →
      ({ delivery with pieces }.receive operation).outcome = receipt.outcome := by
  intro body receipt
  have outcome : receipt.outcome = delivery.outcomeOf operation body :=
    receive_plain plain operation
  obtain ⟨pulled, closed⟩ := receive_pulled delivery operation
  have stops : ∀ fault : Fault, ¬fault.BreaksOff → fault.breaksBody = false := by
    intro fault passes
    rw [Fault.breaksOff_iff] at passes
    exact Bool.eq_false_iff.mpr passes
  refine ⟨fun fine => ?_, fun failed => ?_, closed, fun within => ?_, fun beyond => ?_, ?_⟩
  · rw [outcome]
    simp only [outcomeOf, if_neg (Int.not_le.mpr fine)]
    refine ⟨fun beyond => if_pos beyond, fun within => ?_⟩
    simp only [if_neg (Nat.not_lt.mpr within)]
    refine ⟨fun fault broken => ⟨fun breaks => ?_, fun passes => ?_⟩, fun unbroken => ?_⟩
    · simp only [broken, (Fault.breaksOff_iff fault).mp breaks, if_true]
    · simp only [broken, stops fault passes, Bool.false_eq_true, if_false]
    · simp only [unbroken]
      rfl
  · rw [outcome]
    simp only [outcomeOf, if_pos failed]
    refine ⟨fun enough => ?_, fun within fault broken passes => ?_⟩
    · cases broken : delivery.fault with
      | none => rfl
      | some fault =>
          have told : ¬(body.length ≤ snippetLimit ∧ fault.breaksBody = false) := by
            rintro ⟨within, passes⟩
            rcases enough with beyond | breaks
            · exact Nat.not_lt.mpr within beyond
            · rw [(Fault.breaksOff_iff fault).mp (breaks fault broken)] at passes
              cases passes
          exact if_neg told
    · simp only [broken, within, stops fault passes, and_self, if_true]
  · exact pulled.trans (read_plain_within plain within).2.2
  · rw [show receipt.pulled = _ from pulled]
    exact (read_plain_beyond plain beyond).2.2
  · intro pieces same
    have other : ({ delivery with pieces }.receive operation).outcome =
        delivery.outcomeOf operation pieces.flatten :=
      @receive_plain { delivery with pieces } plain operation
    rw [other, same, outcome]

/-- A fault that comes after the limit was passed. -/
theorem receive_delivered_late :
    let pieces : List Octets := [[0x61], [], List.replicate 4096 0x62]
    let delivery : Delivery :=
      { status := 404, headers := [("content-encoding", "identity")], pieces
        fault := some (.network .readTimeout "late") }
    delivery.headers.IsPlain ∧
      (delivery.receive none).outcome = .error ⟨.failure (.httpStatus 404 delivery.phrase
        (String.ofList (Text.Utf8.decodeLossy (pieces.flatten.take snippetLimit)))), none⟩ ∧
      (delivery.receive none).closed = true := by
  intro pieces delivery
  have values : delivery.headers.values "content-encoding" = ["identity"] := by
    simp only [delivery, Headers.values, List.filter_cons, beq_self_eq_true, if_true,
      List.filter_nil, List.map_cons, List.map_nil]
  have names : (Text.splitOn ',' "identity".toList).map (fun name =>
      String.ofList ((Text.strip name).map Char.toLower)) = ["identity"] := by decide
  have codings : delivery.headers.codings = [.identity] := by
    simp only [Headers.codings, values, List.flatMap_cons, names, List.flatMap_nil]
    rfl
  have plain : delivery.headers.IsPlain := by
    intro coding member
    rw [codings] at member
    exact List.mem_singleton.mp member
  have beyond : snippetLimit < delivery.pieces.flatten.length := by
    simp only [delivery, pieces, List.flatten_cons, List.flatten_nil, List.length_append,
      List.length_replicate, List.length_cons, List.length_nil]
    decide
  obtain ⟨_, failed, closed, _⟩ := receive_delivered delivery none plain
  exact ⟨plain, (failed (by decide)).1 (Or.inl beyond), closed⟩

end Delivery

end Scep
