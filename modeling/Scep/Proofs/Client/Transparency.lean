import Scep.Proofs.Client.Question
import Scep.Proofs.Url.Scheme

/-!
Enrollment from end to end.

A call for enrollment on a client whose address reaches a responder has the
handler process the message, once and as it is, and gives what the handler
answers.  Which way the message travels depends on the capability list and makes
no difference.
-/

namespace Scep

/-- A handler that answers messages by a function and keeps those that it was
given, in order. -/
def Handler.logging (answer : Octets → Octets) : Handler (List Octets) where
  enroll := fun message log => (log ++ [message], .ok (answer message))
  nextCertificate := fun log => (log, .ok [])

namespace Client

/-- The capability list that an enrollment goes by: the one that is kept, or else
the one that the responder gives. -/
def listFor {State : Type} (cache : Cache) (service : Service State) : Octets :=
  if cache.stored = [] then service.capabilityList else cache.stored

variable {client : Client} {responder : Responder} {service : Service (List Octets)}
  {answer : Octets → Octets} {log : List Octets} {message : Octets}
  {cut : Outgoing → Octets → List Octets}

private theorem length_queryOf_capabilities_le (url : Url) (method : Method) (message : Octets)
    (unclaimed : "message" ∉ (Query.parse (url.query.getD [])).names) :
    (Outgoing.queryOf .get url ⟨some .getCaCaps, []⟩).render.length ≤
      (Outgoing.queryOf method url ⟨some .pkiOperation, message⟩).render.length :=
  calc
    _ ≤ (Outgoing.queryOf .post url ⟨some .pkiOperation, message⟩).render.length :=
      Query.length_render_set_le _
        (by decide : (Query.encodeComponent "GetCACaps").length ≤
          (Query.encodeComponent "PKIOperation").length)
    _ ≤ _ := Outgoing.length_queryOf_post_le method unclaimed

private theorem brings_capabilities (reached : responder.IsReachedBy client.url)
    (unclaimed : "message" ∉ (Query.parse (client.url.query.getD [])).names)
    (whole : ∀ outgoing body, (cut outgoing body).flatten = body)
    (listFits : service.capabilityList.length ≤ payloadLimit)
    (queryFits : (Outgoing.queryOf .get client.url ⟨some .getCaCaps, []⟩).render.length ≤
      Url.lengthLimit) (log : List Octets) (sent : List Outgoing) :
    ∃ later, (client.line (Loopback.transportBy cut)).Brings .capabilities
      ⟨⟨⟨some service⟩, responder, log⟩, sent⟩ ⟨⟨⟨some service⟩, responder, log⟩, later⟩
      service.capabilityList := by
  have performed : ∀ octets, service.perform .getCaCaps octets log =
      (log, .ok { operation := some .getCaCaps, data := service.capabilityList }) :=
    fun _ => rfl
  obtain ⟨later, _, answers, _⟩ :=
    Loopback.answers_question (reached.hears unclaimed) whole performed rfl rfl listFits queryFits
      sent
  exact ⟨later, answers.brings rfl⟩

private theorem brings_enrollment {list : Octets} (reached : responder.IsReachedBy client.url)
    (unclaimed : "message" ∉ (Query.parse (client.url.query.getD [])).names)
    (whole : ∀ outgoing body, (cut outgoing body).flatten = body)
    (handles : service.handler = some (Handler.logging answer))
    (messageFits : message.length ≤ payloadLimit)
    (answerFits : (answer message).length ≤ payloadLimit)
    (queryFits : (Outgoing.queryOf (Session.methodFor list) client.url
      ⟨some .pkiOperation, message⟩).render.length ≤ Url.lengthLimit)
    (log : List Octets) (sent : List Outgoing) :
    ∃ later, (client.line (Loopback.transportBy cut)).Brings (Session.enrollment list message)
      ⟨⟨⟨some service⟩, responder, log⟩, sent⟩
      ⟨⟨⟨some service⟩, responder, log ++ [message]⟩, later⟩ (answer message) := by
  obtain ⟨outgoing, made, leads⟩ :=
    Loopback.exists_request reached (Session.methodFor list) unclaimed queryFits
  have performed : service.perform .pkiOperation message log =
      (log ++ [message], .ok { operation := some .pkiOperation, data := answer message }) := by
    simp only [Service.perform, Service.handle, handles]
    rfl
  have arrives : Loopback.Arrives ⟨⟨some service⟩, responder, log⟩ client
      (Session.enrollment list message) .pkiOperation service outgoing :=
    ⟨made, leads, rfl, rfl, unclaimed, messageFits⟩
  exact ⟨_, Loopback.brings_of_arrives
    { operation := some .pkiOperation, data := answer message } arrives whole performed rfl rfl
    answerFits sent⟩

/-- A call for enrollment on a client at rest gives what the handler answers to
the message, and the handler is given that message and no other.  The address must be
such that it can be rebuilt for the requests, and leave room in their query. -/
theorem enroll_transparent
    {session : Session (Wire (Loopback (List Octets))) (Pending Outgoing)}
    {deadline : Option Deadline} (rest : session.AtRest)
    (serves : session.far.far = ⟨⟨some service⟩, responder, log⟩)
    (handles : service.handler = some (Handler.logging answer))
    (reached : responder.IsReachedBy client.url)
    (unclaimed : "message" ∉ (Query.parse (client.url.query.getD [])).names)
    (onTime : ∀ due, deadline = some due ∨ session.deadline = some due → ¬due.seconds ≤ 0)
    (whole : ∀ outgoing body, (cut outgoing body).flatten = body)
    (messageFits : message.length ≤ payloadLimit)
    (answerFits : (answer message).length ≤ payloadLimit)
    (listFits : service.capabilityList.length ≤ payloadLimit)
    (queryFits : (Outgoing.queryOf (Session.methodFor (listFor session.cache service)) client.url
      ⟨some .pkiOperation, message⟩).render.length ≤ Url.lengthLimit) :
    let last := (session.add (.call (.enroll message) deadline)).join
      (client.line (Loopback.transportBy cut)) session.tasks.length
    last.ending? session.tasks.length = some (.value (.octets (answer message))) ∧
      last.far.far.state = log ++ [message] := by
  have later : ∀ due, session.deadlineOf (.call (.enroll message) deadline) = some due →
      ¬due.seconds ≤ 0 := by
    intro due given
    cases deadline with
    | none => exact onTime due (Or.inr given)
    | some own => exact onTime due (Or.inl given)
  have far : session.far = ⟨⟨⟨some service⟩, responder, log⟩, session.far.sent⟩ := by
    rw [← serves]
  intro last
  by_cases missing : session.cache.stored = []
  · have fetched : listFor session.cache service = service.capabilityList := if_pos missing
    obtain ⟨asked, fetches⟩ := brings_capabilities reached unclaimed whole listFits
      (Nat.le_trans (length_queryOf_capabilities_le _ _ message unclaimed) queryFits) log
      session.far.sent
    obtain ⟨called, brings⟩ := brings_enrollment reached unclaimed whole handles messageFits
      answerFits queryFits log asked
    rw [fetched] at brings
    rw [← far] at fetches
    have ended := Session.join_enroll_missing rest missing later
      (fun due given => onTime due (Or.inr given)) fetches brings
    exact ⟨ended.1, congrArg (fun wire => wire.far.state) ended.2⟩
  · have kept : listFor session.cache service = session.cache.stored := if_neg missing
    obtain ⟨called, brings⟩ := brings_enrollment reached unclaimed whole handles messageFits
      answerFits queryFits log session.far.sent
    rw [kept, ← far] at brings
    have ended := Session.join_enroll_kept rest missing later brings
    exact ⟨ended.1, congrArg (fun wire => wire.far.state) ended.2⟩

/-- A message that is posted, the answer coming octet by octet. -/
theorem enroll_transparent_posted :
    let url : Url :=
      { scheme := "http".toList, host := "ca".toList, path := "/scep".toList
        query := some "id=7".toList }
    let service : Service (List Octets) :=
      ⟨["AES", "POSTPKIOperation"], ([], 0), some (Handler.logging List.reverse)⟩
    let client : Client := ⟨url, none⟩
    let session : Session (Wire (Loopback (List Octets))) (Pending Outgoing) :=
      client.session ⟨⟨some service⟩, ⟨"/scep".toList, "ca", 80, []⟩, [[9]]⟩
    let cut : Outgoing → Octets → List Octets := fun _ body => body.map fun octet => [octet]
    let last := (session.add (.call (.enroll [1, 2, 3]) none)).join
      (client.line (Loopback.transportBy cut)) session.tasks.length
    Session.methodFor (listFor session.cache service) = .post ∧
      last.ending? session.tasks.length = some (.value (.octets [3, 2, 1])) ∧
      last.far.far.state = [[9], [1, 2, 3]] := by
  intro url service client session cut last
  have bare : url.withQuery [] = .ok { url with query := none } := by cbv
  have again : ({ url with query := none } : Url).withQuery [] =
      .ok { url with query := none } := by
    cbv
  have named : Outgoing.IsNamed { url with query := none } := ⟨_, by cbv⟩
  have reached : Responder.IsReachedBy ⟨"/scep".toList, "ca", 80, []⟩ client.url :=
    ⟨_, _, ⟨bare, again, named, named⟩, by decide, by decide⟩
  have rest : session.AtRest := ⟨rfl, rfl, rfl⟩
  have handles : service.handler = some (Handler.logging List.reverse) := rfl
  have onTime : ∀ due, (none : Option Deadline) = some due ∨ session.deadline = some due →
      ¬due.seconds ≤ 0 := by
    intro due given
    rcases given with own | general
    · cases own
    · cases general
  have whole : ∀ outgoing body, (cut outgoing body).flatten = body := by
    intro outgoing body
    exact List.flatMap_def.symm.trans (List.flatMap_singleton' body)
  have messageFits : List.length ([1, 2, 3] : Octets) ≤ payloadLimit := by decide
  obtain ⟨returned, logged⟩ := enroll_transparent rest rfl handles reached (by decide) onTime whole
    messageFits (by decide) (by decide) (by decide)
  refine ⟨by decide, ?_, ?_⟩
  · rw [returned]
    rfl
  · rw [logged]
    rfl

/-! ### Addresses that cannot be rebuilt -/

private theorem enroll_refused {Far Held : Type} {transport : Transport Far Held}
    {session : Session (Wire Far) (Pending Held)} {deadline : Option Deadline} {flaw : Url.Flaw}
    (rest : session.AtRest) (kept : session.cache.stored ≠ [])
    (later : ∀ due, session.deadlineOf (.call (.enroll message) deadline) = some due →
      ¬due.seconds ≤ 0)
    (refused : client.url.withQuery
      (Outgoing.queryOf .post client.url ⟨some .pkiOperation, message⟩) = .error flaw) :
    let last := (session.add (.call (.enroll message) deadline)).join (client.line transport)
      session.tasks.length
    (∃ told, last.ending? session.tasks.length = some (.failed told)) ∧
      last.far = session.far := by
  have unsent : (client.line transport).start
      (Session.enrollment session.cache.stored message) session.far =
        (session.far, [], .error ⟨flaw.fault, none⟩) := by
    have unmade := Outgoing.ofRequest_of_refused
      (Session.methodFor session.cache.stored).name refused
    simp only [Client.line, Client.send, Session.enrollment, unmade]
  obtain ⟨failed, stays⟩ := Session.join_enroll_refused rest kept later unsent
  exact ⟨⟨_, failed⟩, stays⟩

def postedService : Service (List Octets) :=
  ⟨["POSTPKIOperation"], ([], 0), some (Handler.logging id)⟩

def keepingSession (url : Url) (list : Octets) :
    Session (Wire (Loopback (List Octets))) (Pending Outgoing) :=
  { Client.session ⟨url, none⟩ ⟨⟨some postedService⟩, ⟨"/scep".toList, "ca", 80, []⟩, []⟩ with
    cache := { stored := list } }

private theorem join_keepingSession {url : Url} {list : Octets} {flaw : Url.Flaw} (kept : list ≠ [])
    (refused : url.withQuery (Outgoing.queryOf .post url ⟨some .pkiOperation, message⟩) =
      .error flaw) :
    let session := keepingSession url list
    let last := (session.add (.call (.enroll message) none)).join
      (Client.line ⟨url, none⟩ Loopback.transport) session.tasks.length
    (∃ told, last.ending? session.tasks.length = some (.failed told)) ∧
      last.far.far.state = [] := by
  intro session last
  have later : ∀ due, session.deadlineOf (.call (.enroll message) none) = some due →
      ¬due.seconds ≤ 0 := by
    intro due given
    cases given
  have rest : session.AtRest := ⟨rfl, rfl, rfl⟩
  have outcome : (∃ told, last.ending? session.tasks.length = some (.failed told)) ∧
      last.far = session.far := enroll_refused rest kept later refused
  obtain ⟨failed, far⟩ := outcome
  refine ⟨failed, ?_⟩
  rw [far]
  rfl

def slashes (count : Nat) : List Char := 'a' :: '=' :: List.replicate count '/'

private theorem parse_slashes (count : Nat) :
    Query.parse (slashes count) = [("a", String.ofList (List.replicate count '/'))] := by
  have unmarked : '&' ∉ slashes count := by
    intro member
    rcases List.mem_cons.mp member with same | later
    · exact absurd same (by decide)
    · rcases List.mem_cons.mp later with same | slash
      · exact absurd same (by decide)
      · exact absurd (List.eq_of_mem_replicate slash) (by decide)
  have plain : ∀ char ∈ List.replicate count '/', char.toNat < 0x80 ∧ char ≠ '%' := by
    intro char member
    rw [List.eq_of_mem_replicate member]
    decide
  have name : Query.decodeComponent ['a'] = "a" := by decide
  have value : Query.decodeComponent (List.replicate count '/') =
      String.ofList (List.replicate count '/') := by
    rw [Query.decodeComponent, List.map_replicate]
    exact congrArg String.ofList (Text.Percent.decode_of_plain plain)
  rw [Query.parse, Text.splitOn_eq, List.splitOn_eq_singleton unmarked]
  change [(Query.decodeComponent ['a'], Query.decodeComponent (List.replicate count '/'))] = _
  rw [name, value]

private theorem length_render_slashes (count : Nat) {name : String} (different : name ≠ "a")
    (value : String) :
    ((Query.parse (slashes count)).set name value).render.length =
      3 * count + 3 + (Query.renderPair (name, value)).length := by
  have escaped : (Query.encodeComponent (String.ofList (List.replicate count '/'))).length =
      3 * count := by
    rw [Query.encodeComponent, String.toList_ofList, List.length_flatMap, List.map_replicate,
      List.sum_replicate_nat, Nat.mul_comm]
    rfl
  have own : (Query.encodeComponent "a").length = 1 := by decide
  have written := Query.length_render (Query.set_ne_nil (Query.parse (slashes count)) name value)
  rw [Query.size_set, parse_slashes, Query.without_of_pairsOf_eq_nil
    (Query.pairsOf_singleton_of_ne (Ne.symm different))] at written
  simp only [Query.size, List.map_singleton, List.sum_singleton, Query.renderPair,
    List.length_append, List.length_cons, own, escaped] at written ⊢
  rw [parse_slashes]
  omega

private theorem message_notMem_slashes (count : Nat) :
    "message" ∉ (Query.parse (slashes count)).names := by
  rw [parse_slashes, Query.mem_names]
  rintro ⟨pair, member, same⟩
  rw [List.mem_singleton.mp member] at same
  exact absurd (show "a" = "message" from same) (by decide)

/-- An address whose query takes three times its length when it is written
again. -/
def slashedUrl (count : Nat) : Url := { Url.common with query := some (slashes count) }

private theorem slashedUrl_bare (count : Nat) :
    (slashedUrl count).withQuery [] = .ok .common := by
  cbv

private theorem isReachedBy_slashedUrl (count : Nat) :
    Responder.IsReachedBy ⟨"/scep".toList, "ca", 80, []⟩ (slashedUrl count) := by
  have bare : Url.common.withQuery [] = .ok .common := by cbv
  have named : Outgoing.IsNamed .common := ⟨_, by cbv⟩
  have operates := Responder.operatesAt_common "ca" 80
  exact ⟨_, _, ⟨slashedUrl_bare count, bare, named, named⟩, operates, operates⟩

private theorem slashedUrl_refused {count : Nat} (many : 21838 ≤ count) (message : Octets) :
    (slashedUrl count).withQuery
      (Outgoing.queryOf .post (slashedUrl count) ⟨some .pkiOperation, message⟩) =
        .error (.componentTooLong "query") := by
  have pair : (Query.renderPair ("operation", "PKIOperation")).length = 22 := by decide
  refine Url.withQuery_of_long (slashedUrl_bare count) (Query.set_ne_nil _ _ _) ?_
  change Url.lengthLimit <
    ((Query.parse (slashes count)).set "operation" "PKIOperation").render.length
  rw [length_render_slashes count (by decide), pair, Url.lengthLimit]
  omega

/-- An address whose fragment takes nine times its length when it is read. -/
def markedUrl (count : Nat) : Url :=
  { Url.common with
    fragment := some (Text.Percent.encode Url.isFragmentSafe (List.replicate count '€')) }

private theorem ofServer_markedUrl {count : Nat} (few : count ≤ 65521) :
    Url.ofServer ("http://ca/scep#".toList ++ List.replicate count '€') =
      .ok (markedUrl count) := by
  have start : "http://ca/scep#".toList = "http://".toList ++ "ca/scep#".toList := by decide
  have short : ("http://ca/scep#".toList ++ List.replicate count '€').length ≤
      Url.lengthLimit := by
    rw [List.length_append, List.length_replicate,
      show "http://ca/scep#".toList.length = 15 by decide, Url.lengthLimit]
    omega
  have clean : Url.control? ("http://ca/scep#".toList ++ List.replicate count '€') = none := by
    have visible : "http://ca/scep#".toList.all (!Url.isControl ·) = true := by decide
    refine Url.control?_eq_none fun char member => ?_
    rcases List.mem_append.mp member with first | mark
    · exact Bool.not_eq_true' _ ▸ List.all_eq_true.mp visible char first
    · rw [List.eq_of_mem_replicate mark]
      decide
  have parts : Url.Components.split ("http://ca/scep#".toList ++ List.replicate count '€') =
      ⟨"http".toList, "ca".toList, "/scep".toList, none, some (List.replicate count '€')⟩ := by
    cbv
  have host : Url.normalHost "ca".toList = .ok "ca".toList := by cbv
  have read : Url.parse ("http://ca/scep#".toList ++ List.replicate count '€') =
      .ok (markedUrl count) := by
    rw [Url.parse_of_clean short clean, parts]
    cbv
  have shown : (markedUrl count).shownHost = .ok "ca".toList := by cbv
  have same := Url.withScheme_default ("ca/scep#".toList ++ List.replicate count '€')
  rw [← List.append_assoc, ← start] at same
  simp only [Url.ofServer, same, read, shown]
  rfl

private theorem markedUrl_refused {count : Nat} (many : 7282 ≤ count) (query : Query) :
    ∃ flaw, (markedUrl count).withQuery query = .error flaw := by
  refine Url.withQuery_of_long_fragment rfl ?_ query
  have escaped :
      (if Url.isFragmentSafe '€' then ['€'] else Text.Percent.escape '€').length = 9 := by
    decide
  rw [Text.Percent.encode, List.length_flatMap, List.map_replicate, List.sum_replicate_nat,
    escaped, Url.lengthLimit]
  omega

/-- An enrollment that is to be posted fails if the address has a long query, and
any enrollment fails if the address has a long fragment. -/
theorem enroll_fails_on_long_address :
    let responder : Responder := ⟨"/scep".toList, "ca", 80, []⟩
    let fails := fun (url : Url) (list : Octets) =>
      let session := keepingSession url list
      let last := (session.add (.call (.enroll [1]) none)).join
        (Client.line ⟨url, none⟩ Loopback.transport) session.tasks.length
      (∃ told, last.ending? session.tasks.length = some (.failed told)) ∧
        last.far.far.state = []
    (responder.IsReachedBy (slashedUrl 21838) ∧
      "message" ∉ (Query.parse (slashes 21838)).names ∧
      Session.methodFor postedService.capabilityList = .post ∧
      fails (slashedUrl 21838) postedService.capabilityList) ∧
    (Url.ofServer ("http://ca/scep#".toList ++ List.replicate 7300 '€') = .ok (markedUrl 7300) ∧
      responder.IsReachedBy { markedUrl 7300 with fragment := none } ∧
      ∀ list ≠ [], fails (markedUrl 7300) list) := by
  intro responder fails
  have posted : postedService.capabilityList ≠ [] := by decide
  refine ⟨⟨isReachedBy_slashedUrl _, message_notMem_slashes _, by decide, ?_⟩,
    ofServer_markedUrl (by decide), (Responder.hears_common "ca" 80).reached, ?_⟩
  · exact join_keepingSession posted (slashedUrl_refused (Nat.le_refl _) [1])
  · intro list kept
    obtain ⟨flaw, refused⟩ := markedUrl_refused (show 7282 ≤ 7300 by decide) _
    exact join_keepingSession kept refused

end Client

end Scep
