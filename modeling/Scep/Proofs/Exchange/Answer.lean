import Mathlib
import Scep.Proofs.Exchange.Delivery

/-!
What a client makes of the answer of a responder.

Client and responder choose statuses, media types and limits apart from each
other.  They agree: a payload comes back as it was, unless it is too long, a
failure of the responder comes back as a failure, and a chain of certificates is
labelled by one and recognized by the other.
-/

namespace Scep

private theorem Headers.value?_of_values {headers : Headers} {name value : String}
    (only : headers.values name = [value]) : headers.value? name = some value := by
  unfold Headers.value?
  rw [only]
  simp only [String.intercalate_singleton]

namespace Answer

def delivered (answer : Answer) (reason : Option Octets) (pieces : List Octets) : Delivery :=
  { status := answer.status, headers := answer.headers, reason, pieces }

variable (answer : Answer)

private theorem headers_values_contentType :
    Headers.values answer.headers "Content-Type" = [answer.contentType] := by
  have length : ("content-length".toLower == "Content-Type".toLower) = false := by cbv
  have type : ("content-type".toLower == "Content-Type".toLower) = true := by cbv
  simp only [Headers.values, headers, List.filter_cons, length, type, Bool.false_eq_true, if_false,
    if_true, List.filter_nil, List.map_cons, List.map_nil]

private theorem headers_value?_contentType :
    Headers.value? answer.headers "Content-Type" = some answer.contentType :=
  Headers.value?_of_values answer.headers_values_contentType

private theorem headers_codings : Headers.codings answer.headers = [] := by
  have length : ("content-length".toLower == "content-encoding".toLower) = false := by cbv
  have type : ("content-type".toLower == "content-encoding".toLower) = false := by cbv
  have uncoded : Headers.values answer.headers "content-encoding" = [] := by
    simp only [Headers.values, headers, List.filter_cons, length, type, Bool.false_eq_true,
      if_false, List.filter_nil, List.map_nil]
  simp only [Headers.codings, uncoded, List.flatMap_nil, List.filterMap_nil, List.reverse_nil]

end Answer

namespace MediaType

/-- Only the answer to a question for certificates is labelled a chain, and only
if there are several. -/
theorem ofAnswer_eq_caChain_iff (operation : Option Operation) (certificates : Int) :
    ofAnswer operation certificates = caChain ↔
      operation = some .getCaCert ∧ 1 < certificates := by
  rcases operation with _ | operation
  · simp [ofAnswer, text, caChain]
  · cases operation with
    | getCaCert =>
        by_cases several : 1 < certificates
        · simp [ofAnswer, several]
        · simp [ofAnswer, several, caCertificate, caChain]
    | getCaCaps => simp [ofAnswer, text, caChain]
    | pkiOperation => simp [ofAnswer, pkiMessage, caChain]
    | getNextCaCert => simp [ofAnswer, text, caChain]

end MediaType

theorem Response.isChain_iff (response : Response) :
    response.isChain = true ↔ 1 < response.certificates := by
  have hint : response.isChain = decide ((2 : Int) ≤ response.certificates) := rfl
  rw [hint, decide_eq_true_eq]
  omega

namespace Answer

variable {response : Response} {reason : Option Octets} {pieces : List Octets}

theorem receive_fault {fault : Fault} (reason : Option Octets)
    (failed : response.error = some fault)
    (cut : pieces.flatten = (ofResponse response).body) :
    (((ofResponse response).delivered reason pieces).receive response.operation).outcome =
      .error ⟨.failure (.httpStatus 500 ((ofResponse response).delivered reason pieces).phrase
        (String.ofList (Text.Utf8.decodeLossy
          ((Text.Utf8.encode fault.message.toList).take snippetLimit)))), none⟩ := by
  have page : ofResponse response = .page 500 fault.message := by
    simp only [ofResponse, failed]
  have high : (400 : Int) ≤ (ofResponse response).status := by
    rw [page]
    exact (by decide : (400 : Int) ≤ (500 : Nat))
  have received := Delivery.receive_failed ((ofResponse response).delivered reason pieces)
    response.operation high (headers_codings _) rfl
  rw [received]
  simp only [delivered, cut]
  rw [page]
  rfl

theorem receive_data (reason : Option Octets) (fine : response.error = none)
    (cut : pieces.flatten = (ofResponse response).body) :
    (((ofResponse response).delivered reason pieces).receive response.operation).outcome =
      if payloadLimit < response.data.length then
        .error ⟨.failure (.payloadTooLarge payloadLimit), none⟩
      else
        .ok {
          operation := response.operation
          certificates :=
            if response.operation = some .getCaCert ∧ 1 < response.certificates then chainHint
            else 0
          data := response.data } := by
  have page : ofResponse response =
      ⟨200, MediaType.ofAnswer response.operation response.certificates, response.data⟩ := by
    simp only [ofResponse, fine]
  have body : ((ofResponse response).delivered reason pieces).pieces.flatten = response.data := by
    simp only [delivered, cut, page]
  have status : ((ofResponse response).delivered reason pieces).status < 400 := by
    rw [page]
    exact (by decide : ((200 : Nat) : Int) < 400)
  by_cases beyond : payloadLimit < response.data.length
  · rw [if_pos beyond]
    exact Delivery.receive_tooLong status (headers_codings _) (by rw [body]; exact beyond)
  · rw [if_neg beyond, Delivery.receive_payload status (headers_codings _) rfl
      (by rw [body]; exact Nat.not_lt.mp beyond), body]
    have type : ((ofResponse response).delivered reason pieces).headers.value? "Content-Type" =
        some (MediaType.ofAnswer response.operation response.certificates) := by
      rw [page]
      exact headers_value?_contentType _
    simp only [type, Option.some.injEq, MediaType.ofAnswer_eq_caChain_iff]

/-- However an answer is cut into pieces, a client receives the response that it
was made of: a payload within the limit with the label of a chain where there is
one, a failure with the start of its text, and nothing for a payload if the
responder failed. -/
theorem receive_ofResponse (response : Response) (reason : Option Octets) (pieces : List Octets)
    (cut : pieces.flatten = (ofResponse response).body) :
    let delivery := (ofResponse response).delivered reason pieces
    let outcome := (delivery.receive response.operation).outcome
    (outcome =
      match response.error with
      | some fault =>
        .error ⟨.failure (.httpStatus 500 delivery.phrase (String.ofList (Text.Utf8.decodeLossy
          ((Text.Utf8.encode fault.message.toList).take snippetLimit)))), none⟩
      | none =>
        if payloadLimit < response.data.length then
          .error ⟨.failure (.payloadTooLarge payloadLimit), none⟩
        else
          .ok {
            operation := response.operation
            certificates :=
              if response.operation = some .getCaCert ∧ 1 < response.certificates then 2 else 0
            data := response.data }) ∧
      ∀ received, outcome = .ok received →
        response.error = none ∧
          (received.isChain = true ↔
            response.operation = some .getCaCert ∧ response.isChain = true) := by
  intro delivery outcome
  cases failed : response.error with
  | some fault =>
      have received : outcome = _ := receive_fault reason failed cut
      refine ⟨received, ?_⟩
      intro other succeeded
      rw [received] at succeeded
      cases succeeded
  | none =>
      have received : outcome = _ := receive_data reason failed cut
      refine ⟨received, ?_⟩
      intro other succeeded
      rw [received] at succeeded
      by_cases beyond : payloadLimit < response.data.length
      · rw [if_pos beyond] at succeeded
        cases succeeded
      · rw [if_neg beyond] at succeeded
        have same := Except.ok.inj succeeded
        refine ⟨rfl, ?_⟩
        rw [← same, Response.isChain_iff, Response.isChain_iff]
        by_cases labelled : response.operation = some .getCaCert ∧ 1 < response.certificates
        · simp [labelled, chainHint]
        · simp [labelled]

/-- A chain of three certificates in four pieces, one of them empty. -/
theorem receive_ofResponse_chain :
    let response : Response :=
      { operation := some .getCaCert, certificates := 3, data := [48, 130, 1] }
    let pieces : List Octets := [[48], [], [130], [1]]
    pieces.flatten = (ofResponse response).body ∧
      ((((ofResponse response).delivered none pieces).receive response.operation).outcome =
        .ok { operation := some .getCaCert, certificates := 2, data := [48, 130, 1] }) := by
  intro response pieces
  have cut : pieces.flatten = (ofResponse response).body := by decide
  exact ⟨cut, (receive_ofResponse response none pieces cut).1⟩

end Answer

end Scep
