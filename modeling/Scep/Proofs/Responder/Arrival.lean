import Scep.Client.Loopback
import Scep.Proofs.Exchange.Outgoing

/-!
Requests of a client as they arrive at a responder.

The two ends know nothing of each other but the text of the query and the octets
of the body, and what the client put there is what the responder finds.
-/

namespace Scep

/-! ### What a responder finds -/

theorem Operation.ofName?_operationName (operation : Option Operation) :
    Operation.ofName? (operationName operation) = operation := by
  cases operation with
  | none => decide
  | some operation => cases operation <;> decide

theorem Arrival.params_of_render {arrival : Arrival} {query : Query}
    (carried : arrival.query = Text.Utf8.encode query.render) : arrival.params = query := by
  rw [Arrival.params, carried,
    Text.Utf8.map_ofNat_encode fun _ member => Query.toNat_lt_of_mem_render member,
    Query.parse_render]

theorem Message.ofQueryValue_encode (octets : Octets) :
    Message.ofQueryValue (String.ofList (Base64.encode octets)) = .ok octets := by
  have ascii : ((Base64.encode octets).any fun char => decide (0x7F < char.toNat)) = false := by
    rw [List.any_eq_false]
    intro char member foreign
    have small := Base64.toNat_lt_of_mem_encode octets member
    have large := of_decide_eq_true foreign
    omega
  simp only [Message.ofQueryValue, String.toList_ofList, ascii, Bool.false_eq_true, if_false,
    Base64.decode_encode]

theorem Message.ofQueryValue_empty : Message.ofQueryValue "" = .ok [] :=
  Message.ofQueryValue_encode []

namespace Outgoing

variable (url : Url) (request : Request)

theorem last?_operation_queryOf (method : Method) :
    (queryOf method url request).last? "operation" = some request.name := by
  have named := Query.last?_set_self (Query.parse (url.query.getD [])) "operation" request.name
  cases method with
  | post => exact named
  | get =>
      by_cases empty : request.message = []
      · rw [queryOf_get_of_empty empty]
        exact named
      · rw [queryOf_get empty, Query.last?_set_of_ne _ _ (by decide)]
        exact named

/-- The message of a `GET` request is found in its query, unless it is empty and
the address has one of its own. -/
theorem ofQueryValue_queryOf
    (unclaimed : request.message = [] → "message" ∉ (Query.parse (url.query.getD [])).names) :
    Message.ofQueryValue (((queryOf .get url request).last? "message").getD "") =
      .ok request.message := by
  by_cases empty : request.message = []
  · have missing := Query.last?_of_not_mem_names (unclaimed empty)
    rw [queryOf_get_of_empty empty, queryOf, Query.last?_set_of_ne _ _ (by decide), missing, empty]
    exact Message.ofQueryValue_empty
  · rw [queryOf_get empty, Query.last?_set_self]
    exact Message.ofQueryValue_encode request.message

end Outgoing

namespace Loopback

variable {name : String} {url : Url} {request : Request} {outgoing : Outgoing}

theorem params_arrival {method : Method} {place : Url}
    (written : place.query = some (Outgoing.queryOf method url request).render)
    (placed : outgoing.url = place) :
    (arrival outgoing).params = Outgoing.queryOf method url request :=
  Arrival.params_of_render (by rw [arrival, placed, written, Option.getD_some])

private theorem operation_arrival {method : Method}
    (read : (arrival outgoing).params = Outgoing.queryOf method url request) :
    ((arrival outgoing).params.last? "operation").map Operation.ofName? =
      some request.operation := by
  rw [read, Outgoing.last?_operation_queryOf]
  exact congrArg some (Operation.ofName?_operationName request.operation)

theorem message_arrival {method : Method}
    (read : (arrival outgoing).params = Outgoing.queryOf method url request)
    (unclaimed : method.name = "GET" → request.message = [] →
      "message" ∉ (Query.parse (url.query.getD [])).names) :
    Message.ofRequest method.name (arrival outgoing).params (Outgoing.bodyOf method request) =
      if method.name = "POST" ∧ payloadLimit < request.message.length then
        .error ⟨.failure (.payloadTooLarge payloadLimit), none⟩
      else .ok request.message := by
  rw [Message.ofRequest, Method.ofName?_name, read]
  cases method with
  | get =>
      rw [if_neg (fun both => absurd both.1 (by decide))]
      exact Outgoing.ofQueryValue_queryOf url request (unclaimed rfl)
  | post =>
      by_cases long : payloadLimit < request.message.length
      · rw [if_pos ⟨rfl, long⟩]
        exact if_pos long
      · rw [if_neg (fun both => long both.2)]
        exact if_neg long

/-- Whatever request is encoded, the responder finds the operation and the
message that it was encoded from.  Only a posted message that is too long is
refused. -/
theorem arrival_undoes_ofRequest (made : Outgoing.ofRequest name url request = .ok outgoing)
    (unclaimed : name = "GET" → request.message = [] →
      "message" ∉ (Query.parse (url.query.getD [])).names) :
    let query := (arrival outgoing).params
    (query.last? "operation").map Operation.ofName? = some request.operation ∧
      Message.ofRequest name query outgoing.body =
        (if name = "POST" ∧ payloadLimit < request.message.length then
          .error ⟨.failure (.payloadTooLarge payloadLimit), none⟩
        else .ok request.message) ∧
      (name = "POST" → outgoing.body = request.message ∧
        Headers.values outgoing.headers "content-length" = [toString request.message.length]) ∧
      (name = "GET" → outgoing.body = []) := by
  obtain ⟨method, place, known, written, madeOf⟩ := Outgoing.madeOf_of_ofRequest made
  have read := params_arrival written madeOf.url
  have named := Method.name_of_ofName? known
  subst named
  refine ⟨operation_arrival read, ?_, ?_, ?_⟩
  · rw [madeOf.body]
    exact message_arrival read unclaimed
  · intro post
    cases method with
    | get => exact absurd post (by decide)
    | post => exact ⟨madeOf.body, Outgoing.values_contentLength madeOf⟩
  · intro get
    cases method with
    | get => exact madeOf.body
    | post => exact absurd get (by decide)

/-- The message of a request takes the place of one in the address. -/
theorem arrival_undoes_ofRequest_get :
    let url : Url :=
      { scheme := "http".toList, host := "ca".toList, path := "/scep".toList
        query := some "id=%C3%A9&message=old".toList }
    let request : Request := ⟨some .pkiOperation, [251, 255]⟩
    let outgoing : Outgoing :=
      ⟨.get, { url with query := some "id=%C3%A9&message=-_8%3D&operation=PKIOperation".toList },
        [("host", "ca")], []⟩
    Outgoing.ofRequest "GET" url request = .ok outgoing ∧
      Message.ofRequest "GET" (arrival outgoing).params [] = .ok [251, 255] := by
  intro url request outgoing
  have made : Outgoing.ofRequest "GET" url request = .ok outgoing := by cbv
  have undone := arrival_undoes_ofRequest made (fun _ empty => absurd empty (by decide))
  exact ⟨made, undone.2.1⟩

end Loopback

end Scep
