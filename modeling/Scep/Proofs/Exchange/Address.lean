import Scep.Proofs.Exchange.Outgoing
import Scep.Proofs.Query.Names
import Scep.Proofs.Url.Normal

/-!
What encoding a request changes of an address.

The query is read, the values of the request are set in it, and it is written
again; the rest of the address is put together and taken apart once or twice.  Of
all this nothing is left but the values of the request.
-/

namespace Scep.Outgoing

variable {url target : Url} {request : Request} {outgoing : Outgoing} {method : Method}

/-! ### The query -/

def pairsOf (method : Method) (request : Request) : Query :=
  ("operation", request.name) ::
    match method with
    | .post => []
    | .get =>
      if request.message.isEmpty then []
      else [("message", String.ofList (Base64.encode request.message))]

private theorem queryOf_eq_setAll (method : Method) (url : Url) (request : Request) :
    queryOf method url request =
      (Query.parse (url.query.getD [])).setAll (pairsOf method request) := by
  cases method with
  | post => rfl
  | get =>
      unfold queryOf pairsOf
      cases request.message.isEmpty <;> rfl

private theorem nodup_pairsOf (method : Method) (request : Request) :
    ((pairsOf method request).map Prod.fst).Nodup := by
  have single : ["operation"].Nodup := List.nodup_singleton _
  have both : ["operation", "message"].Nodup := by decide
  unfold pairsOf
  cases method with
  | post => exact single
  | get =>
      cases request.message.isEmpty with
      | true => exact single
      | false => exact both

private theorem pairsOf_ne_nil (method : Method) (request : Request) : pairsOf method request ≠
    [] :=
  List.cons_ne_nil _ _

/-! ### All else -/

private theorem keeps_of_setParam {name value : String} (normal : url.IsNormal)
    (done : setParam url name value = .ok target) : target.IsNormal ∧ target.Keeps url :=
  normal.withQuery (withQuery_of_setParam done)

private theorem keeps_of_ofRequest {text : String} (normal : url.IsNormal)
    (made : ofRequest text url request = .ok outgoing) : outgoing.url.Keeps url := by
  unfold ofRequest at made
  obtain ⟨target, named, made⟩ := bind_eq_ok made
  obtain ⟨normalTarget, keeps⟩ := keeps_of_setParam normal named
  cases known : Method.ofName? text with
  | none =>
      simp only [known] at made
      cases made
  | some method =>
      cases method with
      | post =>
          simp only [known] at made
          rw [(madeOf_of_post made).url]
          exact keeps
      | get =>
          simp only [known] at made
          unfold get at made
          by_cases empty : request.message.isEmpty = true
          · rw [if_pos empty] at made
            rw [(madeOf_of_make (mapError_eq_ok.mp made)).url]
            exact keeps
          · rw [if_neg empty] at made
            obtain ⟨place, placed, made⟩ := bind_eq_ok made
            rw [(madeOf_of_make (mapError_eq_ok.mp made)).url]
            exact (keeps_of_setParam normalTarget placed).2.trans keeps

/-- Whatever the address of a server is, a request that is encoded for it has the
values of the request in its query, one each.  The values of all other names are
those of the address in the same order, the names stand in the order in which they
were there first, new ones at the end, and no pair is lost or added.  Scheme, user
information, path and fragment are those of the address. -/
theorem ofRequest_frame {components : Url.Components} (normal : components.normalize = .ok url)
    {text : String} (made : ofRequest text url request = .ok outgoing) :
    let before := Query.parse (url.query.getD [])
    let after := Query.parse (outgoing.url.query.getD [])
    ∃ method, Method.ofName? text = some method ∧
      let own := (pairsOf method request).map Prod.fst
      after.valuesOf "operation" = [request.name] ∧
      (method = .get → request.message ≠ [] →
        after.valuesOf "message" = [String.ofList (Base64.encode request.message)]) ∧
      (∀ name ∉ own, after.valuesOf name = before.valuesOf name) ∧
      after.names = before.names ++ own.filter (fun name => name ∉ before.names) ∧
      after.grouped = after ∧
      after.Perm (before.filter (fun pair => pair.1 ∉ own) ++ pairsOf method request) ∧
      outgoing.url.scheme = url.scheme ∧ outgoing.url.userInfo = url.userInfo ∧
      outgoing.url.path = url.path ∧ outgoing.url.fragment = url.fragment := by
  intro before after
  obtain ⟨method, place, known, written, madeOf⟩ := madeOf_of_ofRequest made
  have keeps := keeps_of_ofRequest (Url.Components.gives_of_normalize normal).isNormal made
  have set : after = before.setAll (pairsOf method request) := by
    change Query.parse (outgoing.url.query.getD []) = _
    rw [madeOf.url, written, Option.getD_some, Query.parse_render, queryOf_eq_setAll]
  have nodup := nodup_pairsOf method request
  have single : ∀ {name value}, (name, value) ∈ pairsOf method request →
      after.valuesOf name = [value] := by
    intro name value own
    change (after.pairsOf name).map Prod.snd = [value]
    rw [set, Query.pairsOf_setAll_of_mem before nodup own]
    rfl
  refine ⟨method, known, single List.mem_cons_self, ?_, ?_, ?_, ?_, ?_,
    keeps.scheme, keeps.userInfo, keeps.path, keeps.fragment⟩
  · rintro rfl given
    apply single
    have present : request.message.isEmpty = false := by
      rw [← Bool.not_eq_true, List.isEmpty_iff]
      exact given
    simp only [pairsOf, present, Bool.false_eq_true, if_false]
    exact List.mem_cons_of_mem _ List.mem_cons_self
  · intro name other
    change (after.pairsOf name).map Prod.snd = _
    rw [set, Query.pairsOf_setAll_of_not_mem before other]
    rfl
  · rw [set, Query.names_setAll before nodup]
  · rw [set, Query.grouped_setAll before (pairsOf_ne_nil method request)]
  · rw [set]
    exact Query.perm_setAll before nodup

private theorem ofRequest_get (named : setParam url "operation" request.name = .ok target) :
    ofRequest "GET" url request = get target request := by
  unfold ofRequest
  rw [named]
  rfl

/-- An address that loses its port when it is put together again, and whose query has
a value that is no UTF-8. -/
def portedUrl : Url where
  scheme := "http".toList
  userInfo := "a%40b%3B".toList
  host := "ca".toList
  port := some 80
  path := "/x/y".toList
  query := some "k=1&operation=old&k=%FF&+".toList
  fragment := some "z".toList

def askedUrl : Url :=
  { portedUrl with
    port := none
    query := some "k=1&k=%EF%BF%BD&operation=PKIOperation&+=".toList }

/-- The address with a message as well. -/
def filledUrl : Url :=
  { askedUrl with
    query := some "k=1&k=%EF%BF%BD&operation=PKIOperation&+=&message=-_8%3D".toList }

private theorem normalize_portedUrl :
    (Url.Components.split "HTTP://a%40b;@Ca:80/x/./y?k=1&operation=old&k=%FF&+#z".toList).normalize =
      .ok portedUrl := by
  cbv

def sextetRequest : Request := ⟨some .pkiOperation, [251, 255]⟩

private theorem setParam_portedUrl :
    setParam portedUrl "operation" sextetRequest.name = .ok askedUrl := by
  cbv

private theorem setParam_askedUrl :
    setParam askedUrl "message" (String.ofList (Base64.encode sextetRequest.message)) =
      .ok filledUrl := by
  cbv

private theorem make_filledUrl :
    make .get filledUrl [] [] = .ok ⟨.get, filledUrl, [("host", "ca")], []⟩ := by
  cbv

theorem ofRequest_frame_ported :
    ofRequest "GET" portedUrl sextetRequest = .ok ⟨.get, filledUrl, [("host", "ca")], []⟩ ∧
      (Query.parse (filledUrl.query.getD [])).valuesOf "k" =
        (Query.parse (portedUrl.query.getD [])).valuesOf "k" ∧
      filledUrl.userInfo = portedUrl.userInfo := by
  have given : sextetRequest.message ≠ [] := List.cons_ne_nil _ _
  have made : ofRequest "GET" portedUrl sextetRequest =
      .ok ⟨.get, filledUrl, [("host", "ca")], []⟩ :=
    (ofRequest_get setParam_portedUrl).trans
      (get_of_setParam given setParam_askedUrl make_filledUrl)
  obtain ⟨method, known, _, _, others, _, _, _, _, userInfo, _, _⟩ :=
    ofRequest_frame normalize_portedUrl made
  cases known
  exact ⟨made, others "k" (by decide), userInfo⟩

end Scep.Outgoing
