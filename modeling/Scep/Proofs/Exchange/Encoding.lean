import Scep.Proofs.Exchange.Outgoing

/-!
How encoding a request can fail.

A method that is neither of the two and a request that cannot be built are
failures of the protocol.  Setting a value of the address comes before either,
and an address that does not take the value fails as an address: so does every
`GET` request with a message that makes the query too long.
-/

namespace Scep.Outgoing

variable {text : String} {url once twice target : Url} {request : Request} {outgoing : Outgoing}

/-! ### Outcomes -/

/-- The outcomes that encoding a request is meant to have. -/
inductive IsDocumented (text : String) (request : Request) : Except Raised Outgoing → Prop where
  | made (outgoing : Outgoing) (known : Method.ofName? text ≠ none) :
    IsDocumented text request (.ok outgoing)
  | unsupported (unknown : Method.ofName? text = none) :
    IsDocumented text request (.error ⟨.failure (.unsupportedMethod text), none⟩)
  | unbuilt (fault : Fault) (known : Method.ofName? text ≠ none) :
    IsDocumented text request
      (.error ⟨.failure (.requestConstruction request.name fault.message), some fault⟩)

inductive IsForeign (text : String) : Fault → Prop where
  | address (flaw : Url.Flaw) : IsForeign text flaw.fault
  | hostName (flaw : Idn.Flaw) (get : text = "GET") : IsForeign text (.hostName flaw)
  | notAscii (flaw : Text.NotAscii) (get : text = "GET") : IsForeign text (.notAscii flaw)

theorem IsForeign.undocumented {fault : Fault} (foreign : IsForeign text fault) :
    ¬IsDocumented text request (.error ⟨fault, none⟩) := by
  intro documented
  cases foreign with
  | address flaw => cases documented
  | hostName flaw get => cases documented
  | notAscii flaw get => cases documented

/-! ### Addresses that take the values -/

/-- An address that was rebuilt once can be rebuilt once more for a message that is
there, its query stays within the limit, and its host can be written. -/
def TakesMessage (once url : Url) (request : Request) : Prop :=
  ∃ twice, (request.message = [] → twice = once) ∧
    (request.message ≠ [] → once.withQuery [] = .ok twice) ∧
    (queryOf .get url request).render.length ≤ Url.lengthLimit ∧ IsNamed twice

/-- The address can be rebuilt for the operation, its query stays within the limit,
and on `GET` it takes the message. -/
def IsEncodable (text : String) (url : Url) (request : Request) : Prop :=
  ∃ once, url.withQuery [] = .ok once ∧
    (queryOf .post url request).render.length ≤ Url.lengthLimit ∧
    (text = "GET" → TakesMessage once url request)

private theorem isNamed_withQuery (query : Option (List Char)) :
    IsNamed { url with query } ↔ IsNamed url :=
  ⟨fun named => exists_make named url.query .get [] [],
    fun named => exists_make named query .get [] []⟩

private theorem make_refused {method : Method} {fields : List (String × String)} {body : Octets}
    {fault : Fault} (refused : make method url fields body = .error fault) :
    IsForeign "GET" fault := by
  unfold make at refused
  split at refused
  · cases refused
    exact .hostName _ rfl
  · cases refused
  · split at refused
    · cases refused
      exact .notAscii _ rfl
    · cases refused

private theorem setParam_error {name value : String} {raised : Raised}
    (refused : setParam url name value = .error raised) :
    ∃ flaw : Url.Flaw, raised = ⟨flaw.fault, none⟩ := by
  unfold setParam at refused
  cases given : url.setParam name value with
  | ok target =>
      rw [given] at refused
      cases refused
  | error flaw =>
      rw [given] at refused
      exact ⟨flaw, (Except.error.inj refused).symm⟩

theorem setParam_eq_ok_iff {name value : String} :
    setParam url name value = .ok target ↔
      ∃ bare, url.withQuery [] = .ok bare ∧
        ((Query.parse (url.query.getD [])).set name value).render.length ≤ Url.lengthLimit ∧
        target =
          { bare with query := some ((Query.parse (url.query.getD [])).set name value).render } :=
  mapError_eq_ok.trans (Url.withQuery_eq_ok_iff (Query.set_ne_nil _ _ _))

theorem setParam_message_iff (given : request.message ≠ []) :
    setParam { once with query := some (queryOf .post url request).render } "message"
        (String.ofList (Base64.encode request.message)) = .ok target ↔
      ∃ twice, once.withQuery [] = .ok twice ∧
        (queryOf .get url request).render.length ≤ Url.lengthLimit ∧
        target = { twice with query := some (queryOf .get url request).render } := by
  rw [setParam_eq_ok_iff, queryOf_get given]
  simp only [Option.getD_some, Query.parse_render]
  exact Iff.rfl

theorem not_isEncodable_of_long (url : Url) (long : 49146 < request.message.length) :
    ¬IsEncodable "GET" url request := by
  rintro ⟨once, _, _, taken⟩
  obtain ⟨twice, _, _, short, _⟩ := taken rfl
  have given : request.message ≠ [] := by
    intro empty
    rw [empty] at long
    cases long
  have pair := Query.length_renderPair_le_set (queryOf .post url request) "message"
    (String.ofList (Base64.encode request.message))
  have escaped := Query.length_le_encodeComponent (String.ofList (Base64.encode request.message))
  have name : (Query.encodeComponent "message").length = 7 := by decide
  rw [String.toList_ofList, Base64.length_encode] at escaped
  simp only [Query.renderPair, List.length_append, List.length_cons, name] at pair
  rw [queryOf_get given, Url.lengthLimit] at short
  omega

/-! ### By method -/

private theorem get_of_message (given : request.message ≠ []) :
    get target request = (do
      let place ← setParam target "message" (String.ofList (Base64.encode request.message))
      (make .get place [] []).mapError fun fault => ⟨fault, none⟩) := by
  have present : ¬request.message.isEmpty = true := fun none => given (List.isEmpty_iff.mp none)
  rw [get, if_neg present]

private theorem get_of_no_message (empty : request.message = []) :
    get target request = (make .get target [] []).mapError fun fault => ⟨fault, none⟩ := by
  rw [get, if_pos (List.isEmpty_iff.mpr empty)]
  rfl

theorem exists_get_iff
    (short : (queryOf .post url request).render.length ≤ Url.lengthLimit) :
    (∃ outgoing, get { once with query := some (queryOf .post url request).render } request =
        .ok outgoing) ↔ TakesMessage once url request := by
  unfold TakesMessage
  by_cases empty : request.message = []
  · simp only [get_of_no_message empty, mapError_eq_ok, queryOf_get_of_empty empty]
    constructor
    · intro named
      exact ⟨once, fun _ => rfl, fun given => absurd empty given, short,
        (isNamed_withQuery _).mp named⟩
    · rintro ⟨twice, same, _, _, named⟩
      rw [same empty] at named
      exact (isNamed_withQuery _).mpr named
  · rw [get_of_message empty]
    constructor
    · rintro ⟨outgoing, made⟩
      obtain ⟨place, placed, made⟩ := bind_eq_ok made
      obtain ⟨twice, rebuilt, fits, rfl⟩ := (setParam_message_iff empty).mp placed
      exact ⟨twice, fun none => absurd none empty, fun _ => rebuilt, fits,
        (isNamed_withQuery _).mp ⟨outgoing, mapError_eq_ok.mp made⟩⟩
    · rintro ⟨twice, _, rebuilt, fits, named⟩
      obtain ⟨outgoing, made⟩ :=
        (isNamed_withQuery (some (queryOf .get url request).render)).mpr named
      rw [(setParam_message_iff empty).mpr ⟨twice, rebuilt empty, fits, rfl⟩]
      exact ⟨outgoing, mapError_eq_ok.mpr made⟩

private theorem mapError_eq_error {ε δ α : Type} {first : Except ε α} {tell : ε → δ} {told : δ}
    (failed : first.mapError tell = .error told) :
    ∃ flaw, first = .error flaw ∧ told = tell flaw := by
  cases first with
  | ok value => cases failed
  | error flaw => exact ⟨flaw, rfl, (Except.error.inj failed).symm⟩

private theorem get_refused {raised : Raised} (refused : get target request = .error raised) :
    ∃ fault, IsForeign "GET" fault ∧ raised = ⟨fault, none⟩ := by
  by_cases empty : request.message = []
  · rw [get_of_no_message empty] at refused
    obtain ⟨fault, unmade, rfl⟩ := mapError_eq_error refused
    exact ⟨fault, make_refused unmade, rfl⟩
  · rw [get_of_message empty] at refused
    cases placed : setParam target "message" (String.ofList (Base64.encode request.message)) with
    | error other =>
        rw [placed] at refused
        obtain ⟨flaw, rfl⟩ := setParam_error placed
        cases refused
        exact ⟨_, .address flaw, rfl⟩
    | ok place =>
        rw [placed] at refused
        obtain ⟨fault, unmade, rfl⟩ := mapError_eq_error refused
        exact ⟨fault, make_refused unmade, rfl⟩

private theorem get_outcome
    (short : (queryOf .post url request).render.length ≤ Url.lengthLimit) :
    (TakesMessage once url request ∧
        ∃ outgoing, get { once with query := some (queryOf .post url request).render } request =
          .ok outgoing) ∨
      ¬TakesMessage once url request ∧ ∃ fault, IsForeign "GET" fault ∧
        get { once with query := some (queryOf .post url request).render } request =
          .error ⟨fault, none⟩ := by
  rw [← exists_get_iff short]
  cases asked : get { once with query := some (queryOf .post url request).render } request with
  | ok outgoing => exact Or.inl ⟨⟨outgoing, rfl⟩, outgoing, rfl⟩
  | error raised =>
      obtain ⟨fault, foreign, rfl⟩ := get_refused asked
      refine Or.inr ⟨?_, fault, foreign, rfl⟩
      rintro ⟨outgoing, made⟩
      cases made

private theorem post_documented (known : Method.ofName? text ≠ none) :
    IsDocumented text request (post target request) := by
  cases made : post target request with
  | ok outgoing => exact .made outgoing known
  | error raised =>
      obtain ⟨fault, _, rfl⟩ := mapError_eq_error made
      exact .unbuilt fault known

/-! ### All methods -/

private theorem ofRequest_of_setParam (named : setParam url "operation" request.name = .ok target) :
    ofRequest text url request =
      match Method.ofName? text with
      | some .get => get target request
      | some .post => post target request
      | none => .error ⟨.failure (.unsupportedMethod text), none⟩ := by
  rw [ofRequest, named]
  rfl

/-- Encoding a request ends as documented or in a foreign fault, as the address
takes the values or does not. -/
theorem ofRequest_outcome (text : String) (url : Url) (request : Request) :
    IsEncodable text url request ∧ IsDocumented text request (ofRequest text url request) ∨
      ¬IsEncodable text url request ∧
        ∃ fault, IsForeign text fault ∧ ofRequest text url request = .error ⟨fault, none⟩ := by
  cases named : setParam url "operation" request.name with
  | error raised =>
      obtain ⟨flaw, rfl⟩ := setParam_error named
      refine Or.inr ⟨?_, _, .address flaw, ?_⟩
      · rintro ⟨once, rebuilt, short, _⟩
        rw [setParam_eq_ok_iff.mpr ⟨once, rebuilt, short, rfl⟩] at named
        cases named
      · rw [ofRequest, named]
        rfl
  | ok target =>
      obtain ⟨once, rebuilt, short, rfl⟩ := setParam_eq_ok_iff.mp named
      have outcome : ofRequest text url request = _ := ofRequest_of_setParam named
      cases known : Method.ofName? text with
      | none =>
          rw [known] at outcome
          rw [outcome]
          refine Or.inl ⟨⟨once, rebuilt, short, ?_⟩, .unsupported known⟩
          intro get
          rw [get] at known
          cases known
      | some method =>
          rw [known] at outcome
          have supported : Method.ofName? text ≠ none := by
            rw [known]
            exact Option.some_ne_none _
          have word := Method.name_of_ofName? known
          cases method with
          | post =>
              rw [outcome]
              refine Or.inl ⟨⟨once, rebuilt, short, ?_⟩, post_documented supported⟩
              intro get
              rw [get] at word
              exact absurd word (by decide)
          | get =>
              change ofRequest text url request = Outgoing.get
                { once with query := some (queryOf .post url request).render } request at outcome
              rw [outcome]
              rcases @get_outcome url once request short with
                ⟨takes, outgoing, made⟩ | ⟨untaken, fault, foreign, refused⟩
              · rw [made]
                exact Or.inl ⟨⟨once, rebuilt, short, fun _ => takes⟩, .made outgoing supported⟩
              · rw [show "GET" = text from word] at foreign
                refine Or.inr ⟨?_, fault, foreign, refused⟩
                rintro ⟨other, again, _, taken⟩
                rw [rebuilt] at again
                cases again
                exact untaken (taken word.symm)

/-! ### Long messages -/

private theorem ofRequest_get_of_long (rebuilt : Rebuilt url once twice)
    (short : (queryOf .post url request).render.length ≤ Url.lengthLimit)
    (given : request.message ≠ [])
    (long : Url.lengthLimit < (queryOf .get url request).render.length) :
    ofRequest "GET" url request = .error ⟨(Url.Flaw.componentTooLong "query").fault, none⟩ := by
  rw [queryOf_get given] at long
  have tooLong := Url.withQuery_of_long rebuilt.second (Query.set_ne_nil _ _ _) long
  have refused : setParam { once with query := some (queryOf .post url request).render } "message"
      (String.ofList (Base64.encode request.message)) =
        .error ⟨(Url.Flaw.componentTooLong "query").fault, none⟩ := by
    apply setParam_refused
    simp only [Option.getD_some, Query.parse_render]
    exact tooLong
  rw [ofRequest_of_setParam (setParam_operation rebuilt short)]
  change Outgoing.get _ request = _
  rw [get_of_message given, refused]
  rfl

def plainUrl : Url := { scheme := "http".toList, host := "ca".toList, path := "/scep".toList }

private theorem rebuilt_plainUrl : Rebuilt plainUrl plainUrl plainUrl := by
  have bare : plainUrl.withQuery [] = .ok plainUrl := by cbv
  have named : IsNamed plainUrl := ⟨_, by cbv⟩
  exact ⟨bare, bare, named, named⟩

private theorem ofRequest_plainUrl (long : 49146 < request.message.length)
    (operation : request.operation = some .pkiOperation) :
    ofRequest "GET" plainUrl request =
      .error ⟨(Url.Flaw.componentTooLong "query").fault, none⟩ := by
  have given : request.message ≠ [] := by
    intro empty
    rw [empty] at long
    cases long
  have short : (queryOf .post plainUrl request).render.length ≤ Url.lengthLimit := by
    rw [queryOf, Request.name, operation]
    decide
  refine ofRequest_get_of_long rebuilt_plainUrl short given (Nat.lt_of_not_le fun fits => ?_)
  exact not_isEncodable_of_long plainUrl long
    ⟨plainUrl, rebuilt_plainUrl.first, short, fun _ =>
      ⟨plainUrl, fun _ => rfl, fun _ => rebuilt_plainUrl.second, fits, rebuilt_plainUrl.firstNamed⟩⟩

/-- A message that is too long for every address. -/
theorem ofRequest_undocumented :
    let request : Request := ⟨some .pkiOperation, List.replicate 49147 0xA5⟩
    ofRequest "GET" plainUrl request =
        .error ⟨.network .invalidUrl "URL component \x27query\x27 too long", none⟩ ∧
      ¬IsDocumented "GET" request (ofRequest "GET" plainUrl request) := by
  intro request
  have long : 49146 < request.message.length := by
    rw [List.length_replicate]
    decide
  have refused := ofRequest_plainUrl long rfl
  refine ⟨refused, ?_⟩
  rw [refused]
  exact (IsForeign.address (.componentTooLong "query")).undocumented

end Scep.Outgoing
