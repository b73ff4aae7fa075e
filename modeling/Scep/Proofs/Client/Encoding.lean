import Scep.Client.Basic
import Scep.Proofs.Client.Enrollment
import Scep.Proofs.Exchange.Encoding

/-!
Requests of a client that cannot be encoded.

A call tells faults of the connection in its own terms.  A fault of the address
is none of them, so a message that is too long for the query of a `GET` request
ends an enrollment with that fault itself.
-/

namespace Scep

variable {Far Held : Type}

private theorem Outgoing.IsForeign.during {text : String} {fault : Fault}
    (foreign : IsForeign text fault) (operation : Operation) (deadline : Option Deadline) :
    Raised.during operation deadline ⟨fault, none⟩ = ⟨fault, none⟩ := by
  cases foreign with
  | address flaw => rfl
  | hostName flaw get => rfl
  | notAscii flaw get => rfl

namespace Client

variable {client : Client} {transport : Transport Far Held}
  {session : Session (Wire Far) (Pending Held)} {message : Octets} {deadline : Option Deadline}

private theorem send_refused {ask : Ask} {raised : Raised} (wire : Wire Far)
    (refused : Outgoing.ofRequest ask.method.name client.url ask.request = .error raised) :
    (client.line transport).start ask wire = (wire, [], .error raised) := by
  simp only [line, send, refused]

private theorem join_enroll_foreign {fault : Fault} (rest : session.AtRest)
    (kept : session.cache.stored ≠ [])
    (later : ∀ due, session.deadlineOf (.call (.enroll message) deadline) = some due →
      ¬due.seconds ≤ 0)
    (foreign :
      Outgoing.IsForeign (Session.enrollment session.cache.stored message).method.name fault)
    (refused : Outgoing.ofRequest (Session.enrollment session.cache.stored message).method.name
      client.url (Session.enrollment session.cache.stored message).request =
        .error ⟨fault, none⟩) :
    let last := (session.add (.call (.enroll message) deadline)).join (client.line transport)
      session.tasks.length
    last.ending? session.tasks.length = some (.failed ⟨fault, none⟩) ∧
      last.far = session.far := by
  obtain ⟨failed, stays⟩ := Session.join_enroll_refused rest kept later
    (send_refused session.far refused)
  rw [show (client.line transport).tell = Raised.during from rfl, foreign.during] at failed
  exact ⟨failed, stays⟩

/-- Encoding a request has a documented outcome exactly if the address takes the
values of the request.  Otherwise it ends in a fault of the address or its host,
and so does an enrollment that makes such a request. -/
theorem encoding_documented_iff (client : Client) (transport : Transport Far Held) :
    (∀ text request,
      (Outgoing.IsDocumented text request (Outgoing.ofRequest text client.url request) ↔
        Outgoing.IsEncodable text client.url request) ∧
      (¬Outgoing.IsEncodable text client.url request → ∃ fault, Outgoing.IsForeign text fault ∧
        Outgoing.ofRequest text client.url request = .error ⟨fault, none⟩)) ∧
      ∀ (session : Session (Wire Far) (Pending Held)) message deadline,
        let ask := Session.enrollment session.cache.stored message
        let last := (session.add (.call (.enroll message) deadline)).join (client.line transport)
          session.tasks.length
        session.AtRest → session.cache.stored ≠ [] →
          (∀ due, session.deadlineOf (.call (.enroll message) deadline) = some due →
            ¬due.seconds ≤ 0) →
          ¬Outgoing.IsEncodable ask.method.name client.url ask.request →
            ∃ fault, Outgoing.IsForeign ask.method.name fault ∧
              last.ending? session.tasks.length = some (.failed ⟨fault, none⟩) ∧
              last.far = session.far := by
  have outcome : ∀ text request, ¬Outgoing.IsEncodable text client.url request →
      ∃ fault, Outgoing.IsForeign text fault ∧
        Outgoing.ofRequest text client.url request = .error ⟨fault, none⟩ := by
    intro text request unencodable
    rcases Outgoing.ofRequest_outcome text client.url request with ⟨encodable, _⟩ | ⟨_, refused⟩
    · exact absurd encodable unencodable
    · exact refused
  constructor
  · intro text request
    refine ⟨⟨fun documented => ?_, fun encodable => ?_⟩, outcome text request⟩
    · by_contra unencodable
      obtain ⟨fault, foreign, refused⟩ := outcome text request unencodable
      rw [refused] at documented
      exact foreign.undocumented documented
    · rcases Outgoing.ofRequest_outcome text client.url request with ⟨_, documented⟩ | ⟨no, _⟩
      · exact documented
      · exact absurd encodable no
  · intro session message deadline ask last rest kept later unencodable
    obtain ⟨fault, foreign, refused⟩ := outcome _ _ unencodable
    exact ⟨fault, foreign, join_enroll_foreign rest kept later foreign refused⟩

/-- A long message on a client whose server has a list that calls for `GET`. -/
theorem encoding_documented_iff_long :
    let client : Client := ⟨Outgoing.plainUrl, none⟩
    let session : Session (Wire Unit) (Pending Unit) :=
      { client.session () with cache := { stored := Text.Utf8.encode "AES".toList } }
    let message : Octets := List.replicate 49147 0xA5
    let transport : Transport Unit Unit :=
      ⟨fun _ far => (far, .ready, ()), fun _ far => (far, [], .error (.plain .runtime ""))⟩
    let last := (session.add (.call (.enroll message) none)).join (client.line transport)
      session.tasks.length
    ∃ fault, Outgoing.IsForeign "GET" fault ∧
      last.ending? session.tasks.length = some (.failed ⟨fault, none⟩) ∧
      last.far = session.far := by
  intro client session message transport last
  have later : ∀ due, session.deadlineOf (.call (.enroll message) none) = some due →
      ¬due.seconds ≤ 0 := by
    intro due given
    cases given
  have long : 49146 < message.length := by
    rw [List.length_replicate]
    decide
  have get : (Session.enrollment session.cache.stored message).method = .get := by decide
  have refused := (encoding_documented_iff client transport).2 session message none
    ⟨rfl, rfl, rfl⟩ (by decide) later
  rw [get] at refused
  exact refused (Outgoing.not_isEncodable_of_long Outgoing.plainUrl long)

end Client

end Scep
