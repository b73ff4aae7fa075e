import Scep.Proofs.Client.History
import Scep.Proofs.Client.Told
import Scep.Proofs.Text.Search

/-!
How a client comes to a method for its enrollments.

The method follows from the capability list that the call is told, and it is told
one only if one is kept or a fetch that it has waited for has said that there is
none.  A call that is told anything else sends nothing.
-/

namespace Scep

/-! ### What a list calls for -/

def Cache.Names (list : Octets) (capability : String) : Prop :=
  Text.Utf8.encode capability.toList <:+: list

def Cache.CallsForPost (list : Octets) : Prop :=
  Names list "POSTPKIOperation" ∨ Names list "SCEPStandard"

/-- An exchange carries an enrollment message, by the method that a list calls for. -/
structure Ask.Enrolls (ask : Ask) (list message : Octets) : Prop where
  request : ask.request = ⟨some .pkiOperation, message⟩
  post : ask.method = .post ↔ Cache.CallsForPost list
  get : ask.method = .get ↔ ¬Cache.CallsForPost list

theorem Cache.advertises_iff {list : Octets} {capability : String} :
    advertises list capability = true ↔ Names list capability :=
  Text.contains_iff

private theorem Ask.enrolls (list message : Octets) :
    Enrolls ⟨Session.methodFor list, ⟨some .pkiOperation, message⟩⟩ list message := by
  have post : Session.methodFor list = .post ↔ Cache.CallsForPost list := by
    rw [Session.methodFor_eq_post_iff, Cache.advertises_iff, Cache.advertises_iff]
    rfl
  refine ⟨rfl, post, ?_⟩
  rw [← post]
  change Session.methodFor list = .get ↔ Session.methodFor list ≠ .post
  cases Session.methodFor list <;> decide

namespace Client

open Session

variable {Far Held : Type} {client : Client} {transport : Transport Far Held}

/-! ### What goes over the wire -/

def outgoing? (client : Client) (ask : Ask) : Option Outgoing :=
  (Outgoing.ofRequest ask.method.name client.url ask.request).toOption.map Outgoing.authorized

private theorem method_authorized (outgoing : Outgoing) : outgoing.authorized.method =
    outgoing.method := by
  unfold Outgoing.authorized
  dsimp only
  split <;> rfl

private theorem of_outgoing? {ask : Ask} {outgoing : Outgoing}
    (made : client.outgoing? ask = some outgoing) :
    outgoing.method = ask.method ∧ outgoing.operation? = ask.request.operation := by
  obtain ⟨plain, encoded, rfl⟩ := Option.map_eq_some_iff.mp made
  cases known : Outgoing.ofRequest ask.method.name client.url ask.request with
  | error raised =>
      rw [known] at encoded
      cases encoded
  | ok other =>
      rw [known] at encoded
      cases encoded
      obtain ⟨method, place, named, _, madeOf⟩ := Outgoing.madeOf_of_ofRequest known
      rw [Method.ofName?_name] at named
      refine ⟨?_, ?_⟩
      · rw [method_authorized, madeOf.method, Option.some.inj named]
      · rw [← operation?_of_ofRequest known, Outgoing.operation?, Loopback.url_authorized,
          Outgoing.operation?]

private theorem sent_conveys {ask? : Option Ask} {before after : Wire Far}
    (conveys : (client.line transport).Conveys ask? before after) :
    after.sent = (ask?.bind client.outgoing?).toList ++ before.sent := by
  induction conveys with
  | silent wire => rfl
  | sent ask wire =>
      cases made : Outgoing.ofRequest ask.method.name client.url ask.request with
      | error raised => simp only [line, send, made, Option.bind_some, outgoing?]; rfl
      | ok outgoing => simp only [line, send, made, Option.bind_some, outgoing?]; rfl
  | @heard ask? wire before pending conveys ih =>
      rw [← ih]
      simp only [line, receive]
      split
      · rfl
      · split
        · rfl
        · split <;> rfl

def Sends (client : Client) (session : Session (Wire Far) (Pending Held)) : Prop :=
  session.far.sent = session.asked.filterMap fun made => client.outgoing? made.2

private theorem Sends.turn {session next : Session (Wire Far) (Pending Held)}
    (sends : client.Sends session) (turn : Turn (client.line transport) session next) :
    client.Sends next := by
  cases turn with
  | rests core asked =>
      have far : next.far = session.far := congrArg Core.far core
      rw [Sends, far, asked]
      exact sends
  | called call own core asked =>
      have far : next.far = session.far := congrArg Core.far core
      rw [Sends, far, asked]
      exact sends
  | @goes index work stage late opened ask? placed opens acts asked =>
      obtain ⟨moves, rfl⟩ := opens.moved
      obtain ⟨wire, conveys, settles⟩ := acts
      have far : next.far = wire := settles.far
      rw [Core.far_run] at conveys
      rw [Sends, far, asked, sent_conveys conveys, List.filterMap_append]
      change _ ++ session.far.sent = _
      rw [sends]
      cases ask? with
      | none => rfl
      | some ask =>
          simp only [Option.bind_some, Option.map_some, Option.toList_some, List.filterMap_cons,
            List.filterMap_nil]
          cases client.outgoing? ask <;> rfl

private theorem Sends.run {session : Session (Wire Far) (Pending Held)}
    (sends : client.Sends session) (transport : Transport Far Held) (happenings : List Happening) :
    client.Sends (session.run (client.line transport) happenings) := by
  induction happenings generalizing session with
  | nil => exact sends
  | cons first rest ih => exact ih (sends.turn (turn_happen _ session first))

/-! ### Runs -/

/-- What is known of a session of a client, of the next happening, and of all that
may happen later. -/
structure Negotiates (client : Client) (transport : Transport Far Held)
    (session : Session (Wire Far) (Pending Held)) : Prop where
  sent : session.far.sent = session.asked.filterMap fun made => client.outgoing? made.2
  carries {ask : Ask} {outgoing : Outgoing} : client.outgoing? ask = some outgoing →
    outgoing.method = ask.method ∧ outgoing.operation? = ask.request.operation
  asks {index : Nat} {ask : Ask} : (index, ask) ∈ session.asked →
    ∃ work, session.core.work? index = some work ∧ work.Asks ask
  once : (session.asked.map Prod.fst).Nodup
  /-- A call that asks for an enrollment does so as it is told a list, and as that list
  says. -/
  decides {index : Nat} {message : Octets} {own : Option Deadline} {ask : Ask}
    (later : List Happening) :
    let after := fun happenings => session.run (client.line transport) happenings
    (index, ask) ∈ (after later).asked →
      (after later).core.work? index = some (.call (.enroll message) own) →
      (index, ask) ∈ session.asked ∨ ∃ before happening rest list,
        later = before ++ happening :: rest ∧
        Told (after before).core (after (before ++ [happening])).core index (.value list) ∧
        ask.Enrolls list message
  enrolls {index : Nat} {message : Octets} {own : Option Deadline} {list : Octets}
    (happening : Happening) :
    let next := session.happen (client.line transport) happening
    session.core.work? index = some (.call (.enroll message) own) →
      Told session.core next.core index (.value list) →
      ∃ ask, next.asked = (index, ask) :: session.asked ∧ ask.Enrolls list message
  /-- A list that a task is told is the one that is kept.  An empty one is told only
  to those that have waited for the fetch that has brought it. -/
  awaited {index : Nat} {list : Octets} (happening : Happening) :
    Told session.core (session.happen (client.line transport) happening).core index
        (.value list) →
      list ≠ [] ∧ list = session.cache.stored ∨
        list = [] ∧ ∃ reader flight, session.core.reader? index = some reader ∧
          session.cache.awaited? reader = some flight ∧
          session.cache.ending? flight = some (.value [])
  denied {index : Nat} {ending : Ending Octets} (happening : Happening) (later : List Happening) :
    let next := session.happen (client.line transport) happening
    Told session.core next.core index ending → (∀ list, ending ≠ .value list) →
      ∀ ask, (index, ask) ∉ (next.run (client.line transport) later).asked
  failed {index reader flight : Nat} {ending : Ending Octets} (later : List Happening) :
    session.core.reader? index = some reader → session.cache.awaited? reader = some flight →
      session.cache.ending? flight = some ending → (∀ list, ending ≠ .value list) →
      ∀ ask, (index, ask) ∉ (session.run (client.line transport) later).asked
  /-- Where a list is kept, it is asked for by calls that do nothing else and by the
  fetches that there were before. -/
  settled {index : Nat} {ask : Ask} (later : List Happening) :
    let last := session.run (client.line transport) later
    session.cache.stored ≠ [] → (index, ask) ∈ last.asked →
      ask.request.operation = some .getCaCaps →
      (∃ number, session.core.work? index = some (.flight number)) ∨
        ∃ own, last.core.work? index = some (.call .capabilities own)
  supports {index : Nat} {capability : String} {own : Option Deadline} {list : Octets}
    (happening : Happening) :
    let next := session.happen (client.line transport) happening
    session.core.work? index = some (.call (.supports capability) own) →
      Told session.core next.core index (.value list) →
      ∃ value, next.ending? index = some (.value (.truth value)) ∧
        (value = true ↔ Cache.Names list capability)

/-- Whatever the calls on a client and the other end do, a call for an enrollment asks
at most once, and as the list says that it has been told. -/
theorem negotiates (client : Client) (transport : Transport Far Held) (far : Far)
    (happenings : List Happening) :
    client.Negotiates transport ((client.session far).run (client.line transport) happenings) := by
  have starts : client.Sends (client.session far : Session (Wire Far) (Pending Held)) := rfl
  have sends := starts.run transport happenings
  have inOrder : Ordered (client.session far : Session (Wire Far) (Pending Held)).core
      (client.session far : Session (Wire Far) (Pending Held)).asked := Ordered.start _ _
  have ordered := inOrder.run (client.line transport) happenings
  generalize (client.session far).run (client.line transport) happenings = session at ordered sends
  have happens := turn_happen (client.line transport) session
  exact {
    sent := sends
    carries := of_outgoing?
    asks := by
      intro index ask member
      obtain ⟨work, stage, placed, asks, _⟩ := ordered.asks member
      exact ⟨work, Core.work?_of_job placed, asks⟩
    once := ordered.once
    decides := by
      intro index message own ask later after asks does
      rcases ordered.told_of_asked later asks does with
        old | ⟨before, happening, rest, list, split, told, made⟩
      · exact Or.inl old
      · subst made
        exact Or.inr ⟨before, happening, rest, list, split, told, Ask.enrolls list message⟩
    enrolls := by
      intro index message own list happening next does told
      exact ⟨_, (ordered.of_told (happens happening) told does).1, Ask.enrolls list message⟩
    awaited := fun happening told => told.source ordered (happens happening)
    denied := by
      intro index ending happening later next told fails
      have turn := happens happening
      exact (Silent.of_told told ordered turn fails).run (ordered.turn turn) _ later
    failed := by
      intro index reader flight ending later reads awaits ended fails
      exact (Silent.of_awaited reads awaits ended fails _).run ordered _ later
    settled := fun later kept asks named => ordered.asks_for_list kept later asks named
    supports := by
      intro index capability own list happening next does told
      exact ⟨_, told.supports ordered (happens happening) does, Cache.advertises_iff⟩ }

-- Two calls share a fetch that brings nothing and go on by `GET`; a list comes, and the
-- third call posts.
example :
    let client : Client := ⟨{ scheme := "http".toList, host := ['a'], path := ['/'] }, none⟩
    let list := Text.Utf8.encode "SCEPStandard".toList
    let script : Script := ⟨[("GetCACaps",
        [{ delivery := { status := 200 } }, { delivery := { status := 200, pieces := [list] } }]),
      ("PKIOperation", [{ isEcho := true, delivery := { status := 200 } }])]⟩
    let first : List Happening := [.called (.enroll [1]) none, .called (.enroll [2]) none,
      .performed 0, .performed 0, .performed 0, .performed 0, .performed 0, .performed 0,
      .performed 0]
    let second : List Happening := [.called .capabilities none, .performed 0,
      .called (.enroll [3]) none, .performed 0]
    let sent := fun happenings =>
      ((client.session script).run (client.line Script.transport) happenings).far.sent.map
        fun outgoing => (outgoing.method, outgoing.operation?)
    sent first = [(.get, some .pkiOperation), (.get, some .pkiOperation),
        (.get, some .getCaCaps)] ∧
      sent (first ++ second) = [(.post, some .pkiOperation), (.get, some .getCaCaps)] ++
        sent first := by
  decide +kernel

end Client

end Scep
