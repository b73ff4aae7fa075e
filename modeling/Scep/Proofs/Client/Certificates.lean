import Scep.Proofs.Certificate.Store
import Scep.Proofs.Client.Question

/-!
Certificates from the files of a responder to a call of a client.

How many certificates there are decides four times over: what is sent, the number
that goes with it, the media type, and what the client takes it for.  All four
change where a second certificate is added.
-/

namespace Scep

open Certificate (Store)

variable {State : Type}

private theorem Der.content_isInfix_encode (identifier content : Octets) :
    content <:+: encode identifier content :=
  (List.suffix_append _ content).isInfix

namespace Chain

variable (encodings : List Octets)

private theorem inSetOrder_perm : (inSetOrder encodings).Perm encodings :=
  List.mergeSort_perm encodings _

/-- The encodings stand in the message one after the other. -/
theorem flatten_inSetOrder_isInfix : (inSetOrder encodings).flatten <:+: encode encodings := by
  have wrapped := Der.content_isInfix_encode
  refine (wrapped (Der.numbered true 0) _).trans (.trans ?_ (wrapped Der.sequence _))
  refine .trans ?_ (List.suffix_append signedData _).isInfix
  refine .trans (.trans ?_ (wrapped Der.sequence _)) (wrapped (Der.numbered true 0) _)
  exact List.infix_append _ _ _

end Chain

namespace Client

variable {client : Client} {responder : Responder} {service : Service State}
  {cut : Outgoing → Octets → List Octets} {state : State} {deadline : Option Deadline}
  {session : Session (Wire (Loopback State)) (Pending Outgoing)}

/-- A call for certificates on a client at rest gives what the service has, and
takes it for a chain if there are several. -/
theorem join_certificate (rest : session.AtRest)
    (serves : session.far.far = ⟨⟨some service⟩, responder, state⟩)
    (hears : responder.Hears client.url)
    (onTime : ∀ due, deadline = some due ∨ session.deadline = some due → ¬due.seconds ≤ 0)
    (whole : ∀ outgoing body, (cut outgoing body).flatten = body)
    (short : service.certificates.1.length ≤ payloadLimit)
    (queryFits : (Outgoing.queryOf .get client.url ⟨some .getCaCert, []⟩).render.length ≤
      Url.lengthLimit) :
    let last := (session.add (.call .certificate deadline)).join
      (client.line (Loopback.transportBy cut)) session.tasks.length
    last.ending? session.tasks.length = some (.value (.certificate service.certificates.1
      (if 1 < service.certificates.2 then 2 else 0))) ∧ last.far.far = session.far.far := by
  have far : session.far = ⟨⟨⟨some service⟩, responder, state⟩, session.far.sent⟩ := by
    rw [← serves]
  let response : Response :=
    { operation := some .getCaCert
      certificates := service.certificates.2
      data := service.certificates.1 }
  have performed : ∀ octets, service.perform .getCaCert octets state = (state, .ok response) :=
    fun _ => rfl
  obtain ⟨sent, records, answers, _⟩ :=
    Loopback.answers_question hears whole performed rfl rfl short queryFits session.far.sent
  rw [← far] at answers
  have asks : Call.certificate.question? = some .getCaCert := rfl
  obtain ⟨ended, reached, _⟩ := Session.join_question rest asks (Session.later_of_onTime onTime)
    answers rfl
  refine ⟨ended.trans ?_, ?_⟩
  · have hint : (if some Operation.getCaCert = some .getCaCert ∧
        1 < (service.certificates.2 : Int) then chainHint else 0) =
        if 1 < service.certificates.2 then 2 else 0 := by
      simp only [true_and, Nat.one_lt_cast, chainHint]
    exact congrArg (fun chain => some (Ending.value (Result.certificate _ chain))) hint
  · rw [reached, serves]

end Client

namespace Host

variable {files : Files} {settings : Settings} {path : String}
  {file : Certificate × List Certificate} {others : List (Certificate × List Certificate)}

private theorem create_of_load {subject : Except Raised String} {store : Store}
    {event : String → Audit.Event}
    (loads : Store.load files settings.ca = subject.map fun subject => (store, event subject))
    (host : Host State) (handler : Option (Handler State)) (pages : List (List Char × Page)) :
    host.create files settings handler pages = subject.map fun subject =>
      (⟨some ⟨settings.capabilities, store.payload, handler⟩⟩,
        ⟨settings.server.path.toList, settings.server.host, settings.server.port, pages⟩,
        [{ event := event subject }]) := by
  unfold create
  rw [loads]
  cases subject with
  | error raised => rfl
  | ok subject => rfl

/-- If the files of the settings hold certificates, and the name of the first of
them can be read, a responder is created.  It has the certificates of all files
in order, the first one for the authority, and their number is what is recorded
and what goes with the payload.  A client whose address the responder hears, and
whose query stays within the limit, is given the payload when it calls for
certificates, as a chain if there are several. -/
theorem create_certificates (named : settings.ca.certFile = some path)
    (holds : List.Forall₂ (Store.Holds files) (path :: settings.ca.chainFiles) (file :: others))
    (host : Host State) (handler : Option (Handler State)) (pages : List (List Char × Page)) :
    let certificates := Store.together (file :: others)
    let store := Store.ofFiles file others
    let payload :=
      if certificates.length = 1 then file.1.der
      else Chain.encode (certificates.map Certificate.der)
    let service : Service State :=
      ⟨settings.capabilities, (payload, certificates.length), handler⟩
    let responder : Responder :=
      ⟨settings.server.path.toList, settings.server.host, settings.server.port, pages⟩
    let subject := Store.subjectText file.1
    (store.authority = file.1 ∧ store.certificates = certificates ∧
        store.payload = (payload, certificates.length) ∧
        (∃ contents, List.Forall₂ (fun path content => files.read path = .ok content)
            (path :: settings.ca.chainFiles) contents ∧
          certificates.map Certificate.der = contents.flatMap Store.encodings) ∧
        (Chain.inSetOrder (certificates.map Certificate.der)).Perm
          (certificates.map Certificate.der) ∧
        (Chain.inSetOrder (certificates.map Certificate.der)).flatten <:+:
          Chain.encode (certificates.map Certificate.der)) ∧
      Store.load files settings.ca =
        subject.map (fun subject => (store, .caLoaded subject certificates.length)) ∧
      host.create files settings handler pages = subject.map (fun subject =>
        (⟨some service⟩, responder, [{ event := .caLoaded subject certificates.length }])) ∧
      ∀ {client : Client} {cut : Outgoing → Octets → List Octets} {state : State}
        {deadline : Option Deadline} {session : Session (Wire (Loopback State)) (Pending Outgoing)},
        session.AtRest → session.far.far = ⟨⟨some service⟩, responder, state⟩ →
        responder.Hears client.url →
        (∀ due, deadline = some due ∨ session.deadline = some due → ¬due.seconds ≤ 0) →
        (∀ outgoing body, (cut outgoing body).flatten = body) →
        (Outgoing.queryOf .get client.url ⟨some .getCaCert, []⟩).render.length ≤
          Url.lengthLimit →
        payload.length ≤ payloadLimit →
        let last := (session.add (.call .certificate deadline)).join
          (client.line (Loopback.transportBy cut)) session.tasks.length
        last.ending? session.tasks.length = some (.value (.certificate payload
          (if 1 < certificates.length then 2 else 0))) ∧ last.far.far = session.far.far := by
  intro certificates store payload service responder subject
  have loads := Store.load_of_holds named holds
  have sends : store.payload = (payload, certificates.length) := store.payload_eq
  refine ⟨⟨rfl, Store.certificates_ofFiles, sends, Store.der_together holds,
    Chain.inSetOrder_perm _, Chain.flatten_inSetOrder_isInfix _⟩, loads, ?_, ?_⟩
  · have created := create_of_load loads host handler pages
    rw [sends] at created
    exact created
  · intro client cut state deadline session rest serves hears onTime whole queryFits short
    exact Client.join_certificate rest serves hears onTime whole short queryFits

def smallCertificate : Certificate where
  der := [48, 80, 48, 69, 2, 1, 1, 48, 4, 6, 2, 42, 3, 48, 0, 48, 30, 23, 13, 50, 48, 48, 49, 48,
    49, 48, 48, 48, 48, 48, 48, 90, 23, 13, 50, 48, 48, 49, 48, 49, 48, 48, 48, 48, 48, 48, 90, 48,
    13, 49, 11, 48, 9, 6, 3, 85, 4, 3, 12, 2, 99, 97, 48, 9, 48, 4, 6, 2, 42, 3, 3, 1, 0, 48, 4, 6,
    2, 42, 3, 3, 1, 0]
  version := 0
  subject := [[([2, 5, 4, 3], ⟨[12], [99, 97], [12, 2, 99, 97]⟩)]]

def smallFile : Octets := Pem.ascii ("-----BEGIN CERTIFICATE-----\n" ++
  "MFAwRQIBATAEBgIqAzAAMB4XDTIwMDEwMTAwMDAwMFoXDTIwMDEwMTAwMDAwMFow" ++
  "DTELMAkGA1UEAwwCY2EwCTAEBgIqAwMBADAEBgIqAwMBAA==\n-----END CERTIFICATE-----\n")

set_option maxRecDepth 10000 in
theorem holds_smallFile :
    Store.Holds [(["ca.pem".toList], smallFile)] "ca.pem" (smallCertificate, []) :=
  ⟨smallFile, by cbv, by cbv⟩

set_option maxRecDepth 10000 in
theorem subjectText_smallCertificate : Store.subjectText smallCertificate = .ok "CN=ca" := by
  cbv

set_option maxRecDepth 10000 in
private theorem length_smallChain :
    (Chain.encode [smallCertificate.der, smallCertificate.der]).length ≤ payloadLimit := by
  cbv

/-- Two files with one certificate each, which is the same. -/
theorem create_certificates_repeated :
    let settings : Settings := { ca := ⟨some "ca.pem", ["ca.pem"]⟩ }
    let payload := Chain.encode [smallCertificate.der, smallCertificate.der]
    let host : Host Nat := ⟨some ⟨settings.capabilities, (payload, 2), none⟩⟩
    let responder : Responder := ⟨"/scep".toList, "0.0.0.0", 8080, []⟩
    let session : Session (Wire (Loopback Nat)) (Pending Outgoing) :=
      Client.session ⟨.common, none⟩ ⟨host, responder, 0⟩
    (Host.mk none).create [(["ca.pem".toList], smallFile)] settings none [] =
        .ok (host, responder, [{ event := .caLoaded "CN=ca" 2 }]) ∧
      ((session.add (.call .certificate none)).join (Client.line ⟨.common, none⟩ Loopback.transport)
        session.tasks.length).ending? session.tasks.length =
          some (.value (.certificate payload 2)) := by
  intro settings payload host responder session
  have named : settings.ca.certFile = some "ca.pem" := rfl
  have holds : List.Forall₂ (Store.Holds [(["ca.pem".toList], smallFile)])
      ("ca.pem" :: settings.ca.chainFiles) [(smallCertificate, []), (smallCertificate, [])] :=
    .cons holds_smallFile (.cons holds_smallFile .nil)
  have whole : ∀ (_ : Outgoing) (body : Octets), [body].flatten = body :=
    fun _ body => List.flatten_singleton
  obtain ⟨_, _, created, calls⟩ := create_certificates named holds ⟨none⟩
    (none : Option (Handler Nat)) []
  refine ⟨created.trans ?_, (calls ⟨rfl, rfl, rfl⟩ rfl (Responder.hears_common _ _)
    (Session.onTime_of_none rfl) whole (by decide) length_smallChain).1⟩
  rw [subjectText_smallCertificate]
  rfl

end Host

end Scep
