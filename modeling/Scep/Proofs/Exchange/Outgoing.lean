import Scep.Exchange.ContentCoding
import Scep.Exchange.Outgoing
import Scep.Proofs.Base64
import Scep.Proofs.Query.Length
import Scep.Proofs.Url.Rebuild

/-!
Requests that were encoded.

The address of a request differs from that of the server by its query, and the
query is one value more for the operation and, on `GET`, one for the message.
-/

namespace Scep

theorem mapError_eq_ok {ε δ α : Type} {first : Except ε α} {tell : ε → δ} {result : α} :
    first.mapError tell = .ok result ↔ first = .ok result := by
  cases first with
  | error flaw =>
      constructor
      · intro done
        cases done
      · intro done
        cases done
  | ok value =>
      constructor
      · intro done
        cases done
        rfl
      · intro done
        cases done
        rfl

theorem Method.ofName?_name (method : Method) : Method.ofName? method.name = some method := by
  cases method <;> rfl

theorem Method.name_of_ofName? {text : String} {method : Method}
    (known : Method.ofName? text = some method) : method.name = text := by
  unfold Method.ofName? at known
  by_cases get : text = Method.get.name
  · rw [if_pos get] at known
    cases known
    exact get.symm
  · rw [if_neg get] at known
    by_cases post : text = Method.post.name
    · rw [if_pos post] at known
      cases known
      exact post.symm
    · rw [if_neg post] at known
      cases known

namespace Outgoing

/-! ### Requests that can be made -/

variable {method : Method} {url : Url} {fields : List (String × String)} {body : Octets}
  {outgoing : Outgoing}

/-- A request is what it was made of.  Its header may name the host first. -/
structure MadeOf (outgoing : Outgoing) (method : Method) (url : Url)
    (fields : List (String × String)) (body : Octets) : Prop where
  method : outgoing.method = method
  url : outgoing.url = url
  headers : outgoing.headers = fields ∨ ∃ host, outgoing.headers = ("host", host) :: fields
  body : outgoing.body = body

theorem madeOf_of_make (made : make method url fields body = .ok outgoing) :
    outgoing.MadeOf method url fields body := by
  unfold make at made
  cases shown : url.shownHost with
  | error flaw =>
      simp only [shown] at made
      cases made
  | ok host =>
      cases host with
      | nil =>
          simp only [shown] at made
          cases made
          exact ⟨rfl, rfl, Or.inl rfl, rfl⟩
      | cons first rest =>
          simp only [shown] at made
          cases written : Text.ascii url.netloc with
          | error flaw =>
              simp only [written] at made
              cases made
          | ok netloc =>
              simp only [written] at made
              cases made
              exact ⟨rfl, rfl, Or.inr ⟨_, rfl⟩, rfl⟩

/-! ### Setting a value -/

variable {target : Url} {name value : String}

theorem withQuery_of_setParam (done : setParam url name value = .ok target) :
    url.withQuery ((Query.parse (url.query.getD [])).set name value) = .ok target :=
  mapError_eq_ok.mp done

theorem setParam_refused {flaw : Url.Flaw}
    (refused : url.withQuery ((Query.parse (url.query.getD [])).set name value) = .error flaw) :
    setParam url name value = .error ⟨flaw.fault, none⟩ := by
  rw [setParam, Url.setParam, refused]
  rfl

/-! ### Requests that were encoded -/

/-- The query that a request is sent with. -/
def queryOf (method : Method) (url : Url) (request : Request) : Query :=
  let named := (Query.parse (url.query.getD [])).set "operation" request.name
  match method with
  | .post => named
  | .get =>
    if request.message.isEmpty then named
    else named.set "message" (String.ofList (Base64.encode request.message))

theorem queryOf_get_of_empty {url : Url} {request : Request} (empty : request.message = []) :
    queryOf .get url request = queryOf .post url request := by
  simp only [queryOf, empty, List.isEmpty_nil, if_true]

theorem queryOf_get {url : Url} {request : Request} (given : request.message ≠ []) :
    queryOf .get url request = (queryOf .post url request).set "message"
      (String.ofList (Base64.encode request.message)) := by
  have present : ¬request.message.isEmpty = true := fun none => given (List.isEmpty_iff.mp none)
  simp only [queryOf, if_neg present]

def fieldsOf (method : Method) (request : Request) : List (String × String) :=
  match method with
  | .get => []
  | .post => [("content-length", toString request.message.length)]

def bodyOf (method : Method) (request : Request) : Octets :=
  match method with
  | .get => []
  | .post => request.message

variable {request : Request}

theorem values_contentLength {url : Url}
    (madeOf : outgoing.MadeOf .post url (fieldsOf .post request) body) :
    Headers.values outgoing.headers "content-length" = [toString request.message.length] := by
  have host : ("host".toLower == "content-length".toLower) = false := by cbv
  have own : Headers.values (fieldsOf .post request) "content-length" =
      [toString request.message.length] := by
    simp only [Headers.values, fieldsOf, List.filter_cons, beq_self_eq_true, if_true,
      List.filter_nil, List.map_cons, List.map_nil]
  rcases madeOf.headers with bare | ⟨value, hosted⟩
  · rw [bare]
    exact own
  · rw [hosted, Headers.values, List.filter_cons, host, if_neg Bool.false_ne_true]
    exact own

private theorem madeOf_of_get (url : Url)
    (named : target.query = some (queryOf .post url request).render)
    (made : get target request = .ok outgoing) :
    ∃ place, place.query = some (queryOf .get url request).render ∧
      outgoing.MadeOf .get place (fieldsOf .get request) (bodyOf .get request) := by
  unfold get at made
  by_cases empty : request.message = []
  · rw [if_pos (List.isEmpty_iff.mpr empty)] at made
    rw [queryOf_get_of_empty empty]
    exact ⟨target, named, madeOf_of_make (mapError_eq_ok.mp made)⟩
  · rw [if_neg (fun none => empty (List.isEmpty_iff.mp none))] at made
    rw [queryOf_get empty]
    obtain ⟨place, placed, made⟩ := bind_eq_ok made
    have written := Url.query_of_withQuery (Query.set_ne_nil _ _ _)
      (withQuery_of_setParam placed)
    rw [named, Option.getD_some, Query.parse_render] at written
    exact ⟨place, written, madeOf_of_make (mapError_eq_ok.mp made)⟩

theorem madeOf_of_post (made : post target request = .ok outgoing) :
    outgoing.MadeOf .post target (fieldsOf .post request) (bodyOf .post request) :=
  madeOf_of_make (mapError_eq_ok.mp made)

theorem madeOf_of_ofRequest {text : String} (made : ofRequest text url request = .ok outgoing) :
    ∃ method place, Method.ofName? text = some method ∧
      place.query = some (queryOf method url request).render ∧
      outgoing.MadeOf method place (fieldsOf method request) (bodyOf method request) := by
  unfold ofRequest at made
  obtain ⟨target, named, made⟩ := bind_eq_ok made
  have written := Url.query_of_withQuery (Query.set_ne_nil _ _ _) (withQuery_of_setParam named)
  cases known : Method.ofName? text with
  | none =>
      simp only [known] at made
      cases made
  | some method =>
      cases method with
      | get =>
          simp only [known] at made
          obtain ⟨place, query, madeOf⟩ := madeOf_of_get url written made
          exact ⟨.get, place, rfl, query, madeOf⟩
      | post =>
          simp only [known] at made
          exact ⟨.post, target, rfl, written, madeOf_of_post made⟩

/-! ### Requests that can be encoded -/

def IsNamed (url : Url) : Prop := ∃ outgoing, make .get url [] [] = .ok outgoing

theorem exists_make (named : IsNamed url) (query : Option (List Char)) (method : Method)
    (fields : List (String × String)) (body : Octets) :
    ∃ outgoing, make method { url with query } fields body = .ok outgoing := by
  obtain ⟨other, made⟩ := named
  have sameShown : ({ url with query } : Url).shownHost = url.shownHost := rfl
  have sameNetloc : ({ url with query } : Url).netloc = url.netloc := rfl
  unfold make at made ⊢
  rw [sameShown, sameNetloc]
  cases shown : url.shownHost with
  | error flaw =>
      simp only [shown] at made
      cases made
  | ok host =>
      cases host with
      | nil => exact ⟨_, rfl⟩
      | cons first rest =>
          simp only [shown] at made
          cases written : Text.ascii url.netloc with
          | error flaw =>
              simp only [written] at made
              cases made
          | ok netloc => exact ⟨_, rfl⟩

/-- An address that can be rebuilt for a request as often as there are values to
be set, and then names its host. -/
structure Rebuilt (url once twice : Url) : Prop where
  first : url.withQuery [] = .ok once
  second : once.withQuery [] = .ok twice
  firstNamed : IsNamed once
  secondNamed : IsNamed twice

variable {once twice : Url}

theorem setParam_operation (rebuilt : Rebuilt url once twice)
    (short : (queryOf .post url request).render.length ≤ Url.lengthLimit) :
    setParam url "operation" request.name =
      .ok { once with query := some (queryOf .post url request).render } := by
  have named := Url.withQuery_of_short rebuilt.first (Query.set_ne_nil _ _ _) short
  rw [setParam, Url.setParam, named]
  rfl

private theorem setParam_message (rebuilt : Rebuilt url once twice) (given : request.message ≠ [])
    (short : (queryOf .get url request).render.length ≤ Url.lengthLimit) :
    setParam { once with query := some (queryOf .post url request).render } "message"
        (String.ofList (Base64.encode request.message)) =
      .ok { twice with query := some (queryOf .get url request).render } := by
  rw [queryOf_get given] at short ⊢
  have placed := Url.withQuery_of_short rebuilt.second (Query.set_ne_nil _ _ _) short
  have sameBase : ({ once with query := some (queryOf .post url request).render } : Url).withQuery
      ((queryOf .post url request).set "message" (String.ofList (Base64.encode request.message))) =
      once.withQuery ((queryOf .post url request).set "message"
        (String.ofList (Base64.encode request.message))) := rfl
  rw [setParam, Url.setParam]
  simp only [Option.getD_some, Query.parse_render]
  rw [sameBase, placed]
  rfl

private theorem post_of_make (made : make .post target (fieldsOf .post request) request.message =
    .ok outgoing) : post target request = .ok outgoing :=
  mapError_eq_ok.mpr made

theorem get_of_make (empty : request.message = []) (made : make .get target [] [] = .ok outgoing) :
    get target request = .ok outgoing := by
  unfold get
  rw [if_pos (List.isEmpty_iff.mpr empty)]
  exact mapError_eq_ok.mpr made

theorem get_of_setParam {place : Url} (given : request.message ≠ [])
    (placed : setParam target "message" (String.ofList (Base64.encode request.message)) =
      .ok place)
    (made : make .get place [] [] = .ok outgoing) : get target request = .ok outgoing := by
  have present : ¬request.message.isEmpty = true := fun none => given (List.isEmpty_iff.mp none)
  unfold get
  rw [if_neg present, placed]
  exact mapError_eq_ok.mpr made

theorem length_queryOf_post_le (method : Method)
    (unclaimed : "message" ∉ (Query.parse (url.query.getD [])).names) :
    (queryOf .post url request).render.length ≤ (queryOf method url request).render.length := by
  cases method with
  | post => exact Nat.le_refl _
  | get =>
      have missing : (queryOf .post url request).pairsOf "message" = [] := by
        rw [queryOf, Query.pairsOf_set_of_ne _ _ (by decide)]
        exact Query.pairsOf_of_not_mem_names unclaimed
      have longer := Query.length_render_le_set (String.ofList (Base64.encode request.message))
        (Query.set_ne_nil _ "operation" request.name) missing
      by_cases empty : request.message = []
      · exact Nat.le_of_eq (by rw [queryOf_get_of_empty empty])
      · rw [queryOf_get empty]
        exact longer

theorem ofRequest_of_refused (text : String) {flaw : Url.Flaw}
    (refused : url.withQuery (queryOf .post url request) = .error flaw) :
    ofRequest text url request = .error ⟨flaw.fault, none⟩ := by
  unfold ofRequest
  rw [setParam_refused refused]
  rfl

/-- A request whose query is not too long can be encoded for an address that
can be rebuilt. -/
theorem exists_ofRequest (rebuilt : Rebuilt url once twice) (method : Method)
    (unclaimed : "message" ∉ (Query.parse (url.query.getD [])).names)
    (short : (queryOf method url request).render.length ≤ Url.lengthLimit) :
    ∃ outgoing query, ofRequest method.name url request = .ok outgoing ∧
      (outgoing.url = { once with query } ∨ outgoing.url = { twice with query }) := by
  have posted : (queryOf .post url request).render.length ≤ Url.lengthLimit :=
    Nat.le_trans (length_queryOf_post_le method unclaimed) short
  unfold ofRequest
  rw [setParam_operation rebuilt posted, Method.ofName?_name]
  cases method with
  | post =>
      obtain ⟨outgoing, made⟩ := exists_make rebuilt.firstNamed
        (some (queryOf .post url request).render) .post (fieldsOf .post request) request.message
      exact ⟨outgoing, _, post_of_make made, Or.inl (madeOf_of_make made).url⟩
  | get =>
      by_cases empty : request.message = []
      · obtain ⟨outgoing, made⟩ := exists_make rebuilt.firstNamed
          (some (queryOf .post url request).render) .get [] []
        exact ⟨outgoing, _, get_of_make empty made, Or.inl (madeOf_of_make made).url⟩
      · obtain ⟨outgoing, made⟩ := exists_make rebuilt.secondNamed
          (some (queryOf .get url request).render) .get [] []
        exact ⟨outgoing, _, get_of_setParam empty (setParam_message rebuilt empty short) made,
          Or.inr (madeOf_of_make made).url⟩

end Outgoing

end Scep
