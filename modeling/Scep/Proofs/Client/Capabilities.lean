import Scep.Proofs.Client.Question
import Scep.Proofs.Settings.Capabilities

/-!
The capability list from the settings of a responder to what a client makes of it.

The tokens of the settings are joined by line feeds into octets.  A client looks
for a capability among the octets, parts them into words for its records, and
chooses by them how to send.  None of that can mistake two tokens for one.
-/

namespace Scep

variable {Far Held State : Type}

/-! ### The list of a service -/

namespace Service

variable {service : Service State}

private theorem capabilityList_eq (service : Service State) :
    service.capabilityList =
      Text.Utf8.encode (['\n'].intercalate (service.capabilities.map String.toList)) := by
  rw [capabilityList, String.toList_intercalate]
  rfl

private theorem tokens_capabilityList
    (solid : ∀ token ∈ service.capabilities, Text.IsSolid token.toList) :
    Audit.tokens service.capabilityList = service.capabilities := by
  have pieces : ∀ piece ∈ service.capabilities.map String.toList, Text.IsSolid piece := by
    intro piece member
    obtain ⟨token, inside, rfl⟩ := List.mem_map.mp member
    exact solid token inside
  have back : (String.ofList ∘ String.toList) = id := funext fun token => String.ofList_toList
  rw [Audit.tokens, capabilityList_eq, Text.Utf8.decodeLossy_encode,
    Text.words_intercalate (by decide) pieces, List.map_map, back, List.map_id]

private theorem splitOn_capabilityList (given : service.capabilities ≠ [])
    (solid : ∀ token ∈ service.capabilities, Text.IsSolid token.toList) :
    (service.capabilityList.splitOn 0x0A).map Text.Utf8.decode =
      service.capabilities.map fun token => .ok token.toList := by
  have unmarked : ∀ piece ∈ service.capabilities.map String.toList, '\n' ∉ piece := by
    intro piece member within
    obtain ⟨token, inside, rfl⟩ := List.mem_map.mp member
    exact absurd ((solid token inside).unbroken '\n' within) (by decide)
  have parted := Text.Utf8.splitOn_encode (by decide : '\n'.toNat < 0x80)
    (fun none => given (List.map_eq_nil_iff.mp none)) unmarked
  rw [capabilityList_eq]
  refine (congrArg (List.map Text.Utf8.decode) parted).trans ?_
  rw [List.map_map, List.map_map]
  exact List.map_congr_left fun token _ => Text.Utf8.decode_encode token.toList

theorem advertises_capabilityList_iff (service : Service State) {capability : String}
    (given : capability ≠ "") (unbroken : '\n' ∉ capability.toList) :
    Cache.advertises service.capabilityList capability = true ↔
      ∃ token ∈ service.capabilities, capability.toList <:+: token.toList := by
  have letters : capability.toList ≠ [] := fun none => given (String.toList_eq_nil_iff.mp none)
  rw [Cache.advertises, Text.contains_iff, capabilityList_eq, Text.Utf8.encode_isInfix_iff letters,
    Text.infix_intercalate_iff letters unbroken]
  constructor
  · rintro ⟨piece, member, within⟩
    obtain ⟨token, inside, rfl⟩ := List.mem_map.mp member
    exact ⟨token, inside, within⟩
  · rintro ⟨token, inside, within⟩
    exact ⟨token.toList, List.mem_map_of_mem inside, within⟩

theorem methodFor_capabilityList_iff (service : Service State) :
    Session.methodFor service.capabilityList = .post ↔
      ∃ token ∈ service.capabilities,
        "POSTPKIOperation".toList <:+: token.toList ∨ "SCEPStandard".toList <:+: token.toList := by
  have postOperation : "POSTPKIOperation" ≠ "" ∧ '\n' ∉ "POSTPKIOperation".toList := by decide
  have standard : "SCEPStandard" ≠ "" ∧ '\n' ∉ "SCEPStandard".toList := by decide
  rw [Session.methodFor_eq_post_iff,
    service.advertises_capabilityList_iff postOperation.1 postOperation.2,
    service.advertises_capabilityList_iff standard.1 standard.2, ← exists_or]
  exact exists_congr fun token => and_or_left.symm

end Service

/-! ### Calls that look for a capability -/

namespace Session

variable {session looked last : Session Far Held} {line : Line Far Held} {index : Nat}
  {capability : String} {deadline : Option Deadline}

def updates (session : Session Far Held) : List Audit.Record :=
  session.records.filter (·.event.isUpdate)

private theorem GoesOn.supported {list : Octets}
    (goesOn : GoesOn line index (.supports capability) deadline list session looked last) :
    last.ending? index = some (.value (.truth (Cache.advertises list capability))) ∧
      last.records = looked.records := by
  obtain ⟨begun, entry, fuel, reached, queue, inside, going, performed⟩ := goesOn.comes
  obtain ⟨stage, isRoused, calls⟩ := goesOn.calls
  have ended := update_tasks_self looked calls fun task =>
    { task with
      stage := .ended (.value (.truth (Cache.advertises list capability)))
      isRoused := false }
  rw [reached, await_last queue inside performed going (isOver_of_stage ended rfl) goesOn.quiet]
  exact ⟨ending?_of_stage ended rfl, rfl⟩

end Session

namespace Client

variable {client : Client} {responder : Responder} {service : Service State}
  {cut : Outgoing → Octets → List Octets} {state : State} {deadline : Option Deadline}
  {session : Session (Wire (Loopback State)) (Pending Outgoing)}

private theorem answers_capabilities
    (serves : session.far.far = ⟨⟨some service⟩, responder, state⟩)
    (hears : responder.Hears client.url)
    (whole : ∀ outgoing body, (cut outgoing body).flatten = body)
    (short : service.capabilityList.length ≤ payloadLimit)
    (queryFits : (Outgoing.queryOf .get client.url ⟨some .getCaCaps, []⟩).render.length ≤
      Url.lengthLimit) :
    ∃ after records, (client.line (Loopback.transportBy cut)).Answers .capabilities session.far
        after { operation := some .getCaCaps, data := service.capabilityList } records ∧
      records.filter (·.event.isUpdate) = [] := by
  have far : session.far = ⟨⟨⟨some service⟩, responder, state⟩, session.far.sent⟩ := by
    rw [← serves]
  have performed : ∀ octets, service.perform .getCaCaps octets state =
      (state, .ok { operation := some .getCaCaps, data := service.capabilityList }) :=
    fun _ => rfl
  obtain ⟨sent, records, answers, quiet⟩ :=
    Loopback.answers_question hears whole performed rfl rfl short queryFits session.far.sent
  rw [← far] at answers
  exact ⟨_, records, answers, quiet⟩

private theorem join_capabilities (rest : session.AtRest)
    (serves : session.far.far = ⟨⟨some service⟩, responder, state⟩)
    (hears : responder.Hears client.url)
    (onTime : ∀ due, deadline = some due ∨ session.deadline = some due → ¬due.seconds ≤ 0)
    (whole : ∀ outgoing body, (cut outgoing body).flatten = body)
    (short : service.capabilityList.length ≤ payloadLimit)
    (queryFits : (Outgoing.queryOf .get client.url ⟨some .getCaCaps, []⟩).render.length ≤
      Url.lengthLimit) :
    let last := (session.add (.call .capabilities deadline)).join
      (client.line (Loopback.transportBy cut)) session.tasks.length
    last.ending? session.tasks.length = some (.value (.octets service.capabilityList)) ∧
      last.cache = session.cache.replace service.capabilityList ∧
      last.updates = Session.listUpdated service.capabilityList false :: session.updates ∧
      last.AtRest := by
  have asks : Call.capabilities.question? = some .getCaCaps := rfl
  obtain ⟨after, records, answers, quiet⟩ :=
    answers_capabilities serves hears whole short queryFits
  obtain ⟨ended, _, kept, recorded, resting⟩ :=
    Session.join_question rest asks (Session.later_of_onTime onTime) answers rfl
  refine ⟨ended, kept, ?_, resting⟩
  rw [Session.updates, recorded, if_pos rfl, List.filter_append, List.filter_append, quiet]
  rfl

private theorem join_supports (rest : session.AtRest) (capability : String)
    (serves : session.far.far = ⟨⟨some service⟩, responder, state⟩)
    (known : session.cache.stored = [] ∨ session.cache.stored = service.capabilityList)
    (hears : responder.Hears client.url)
    (onTime : ∀ due, deadline = some due ∨ session.deadline = some due → ¬due.seconds ≤ 0)
    (whole : ∀ outgoing body, (cut outgoing body).flatten = body)
    (short : service.capabilityList.length ≤ payloadLimit)
    (queryFits : (Outgoing.queryOf .get client.url ⟨some .getCaCaps, []⟩).render.length ≤
      Url.lengthLimit) :
    let last := (session.add (.call (.supports capability) deadline)).join
      (client.line (Loopback.transportBy cut)) session.tasks.length
    last.ending? session.tasks.length =
        some (.value (.truth (Cache.advertises service.capabilityList capability))) ∧
      last.updates =
        if session.cache.stored = [] then
          Session.listUpdated service.capabilityList true :: session.updates
        else session.updates := by
  intro last
  have needs : (Call.supports capability).needsList = true := rfl
  by_cases missing : session.cache.stored = []
  · obtain ⟨after, _, ⟨sent, held, asking, answering, started, finished, rfl⟩, quiet⟩ :=
      answers_capabilities serves hears whole short queryFits
    obtain ⟨looked, goesOn, _, recorded⟩ := Session.join_missing rest needs missing
      (Session.later_of_onTime onTime) (fun due limits => onTime due (Or.inr limits)) started
      finished rfl
    obtain ⟨ended, records⟩ := goesOn.supported
    refine ⟨ended, ?_⟩
    rw [if_pos missing, Session.updates, records, recorded, List.filter_cons_of_pos rfl,
      ← List.append_assoc, List.filter_append, quiet]
    rfl
  · have kept : session.cache.stored = service.capabilityList := known.resolve_left missing
    obtain ⟨looked, goesOn, _, recorded⟩ := Session.join_kept
      (client.line (Loopback.transportBy cut)) rest needs missing
      (Session.later_of_onTime onTime)
    obtain ⟨ended, records⟩ := goesOn.supported
    rw [kept] at ended
    refine ⟨ended, ?_⟩
    rw [if_neg missing, Session.updates, records, recorded]
    rfl

/-- The tokens that settings accept are told apart wherever their list is read:
in the records of a client, in the lines of the list, and where a capability is
looked for, which is found within one token or not at all.  So a message is
posted exactly if one of the tokens calls for it.  The list comes to a client whose
address the responder hears and leaves room for the query of the operation. -/
theorem capabilities_unambiguous {value : Value} {settings : Settings}
    (accepted : Settings.ofValue value = .fine settings)
    (offers : service.capabilities = settings.capabilities) :
    let tokens := settings.capabilities
    let list := service.capabilityList
    (∀ isImplicit, let event := (Session.listUpdated list isImplicit).event
      Audit.tokens list = tokens ∧
        event.fields =
          [("capabilities", .text (",".intercalate tokens)), ("implicit", .flag isImplicit)] ∧
        event.message =
          "Server capabilities updated (" ++ toString tokens.length ++ " tokens)") ∧
      (tokens ≠ [] → (list.splitOn 0x0A).map Text.Utf8.decode =
        tokens.map fun token => .ok token.toList) ∧
      (∀ capability : String, Text.IsSolid capability.toList →
        (Cache.advertises list capability = true ↔
          ∃ token ∈ tokens, capability.toList <:+: token.toList)) ∧
      (Session.methodFor list = .post ↔ ∃ token ∈ tokens,
        "POSTPKIOperation".toList <:+: token.toList ∨ "SCEPStandard".toList <:+: token.toList) ∧
      ∀ (client : Client) {responder : Responder} {state : State} {deadline : Option Deadline}
        {session : Session (Wire (Loopback State)) (Pending Outgoing)}
        {cut : Outgoing → Octets → List Octets}, session.AtRest →
        session.far.far = ⟨⟨some service⟩, responder, state⟩ → responder.Hears client.url →
        (∀ due, deadline = some due ∨ session.deadline = some due → ¬due.seconds ≤ 0) →
        (∀ outgoing body, (cut outgoing body).flatten = body) →
        list.length ≤ payloadLimit →
        (Outgoing.queryOf .get client.url ⟨some .getCaCaps, []⟩).render.length ≤
          Url.lengthLimit →
        let line := client.line (Loopback.transportBy cut)
        let fetched := (session.add (.call .capabilities deadline)).join line session.tasks.length
        (fetched.ending? session.tasks.length = some (.value (.octets list)) ∧
            fetched.updates = Session.listUpdated list false :: session.updates ∧
            fetched.cache = session.cache.replace list ∧ fetched.AtRest) ∧
          ∀ capability, session.cache.stored = [] ∨ session.cache.stored = list →
            let asked := (session.add (.call (.supports capability) deadline)).join line
              session.tasks.length
            asked.ending? session.tasks.length =
                some (.value (.truth (Cache.advertises list capability))) ∧
              asked.updates = if session.cache.stored = [] then
                Session.listUpdated list true :: session.updates else session.updates := by
  intro tokens list
  have solid : ∀ token ∈ service.capabilities, Text.IsSolid token.toList := by
    rw [offers]
    exact Settings.isSolid_of_ofValue accepted
  have words : Audit.tokens list = tokens :=
    (Service.tokens_capabilityList solid).trans offers
  refine ⟨?_, ?_, ?_, ?_, ?_⟩
  · intro isImplicit event
    refine ⟨words, ?_, ?_⟩
    · change [("capabilities", Detail.text (",".intercalate (Audit.tokens list))), _] = _
      rw [words]
    · change "Server capabilities updated (" ++ toString (Audit.tokens list).length ++ _ = _
      rw [words]
  · intro given
    have lines := Service.splitOn_capabilityList (offers ▸ given) solid
    rw [offers] at lines
    exact lines
  · intro capability word
    have given : capability ≠ "" := fun none => word.given (String.toList_eq_nil_iff.mpr none)
    have unbroken : '\n' ∉ capability.toList :=
      fun within => absurd (word.unbroken '\n' within) (by decide)
    have found := service.advertises_capabilityList_iff given unbroken
    rw [offers] at found
    exact found
  · have chosen := service.methodFor_capabilityList_iff
    rw [offers] at chosen
    exact chosen
  · intro client responder state deadline session cut rest serves hears onTime whole short queryFits
      line fetched
    obtain ⟨ended, kept, recorded, resting⟩ :=
      join_capabilities rest serves hears onTime whole short queryFits
    refine ⟨⟨ended, recorded, kept, resting⟩, fun capability known => ?_⟩
    exact join_supports rest capability serves known hears onTime whole short queryFits

/-- Two tokens that would make up a capability, and a letter of two octets. -/
theorem capabilities_unambiguous_parted :
    let tokens := ["POSTPKI", "Operation", "é"]
    let value : Value := .table [(.text "capabilities", .list (tokens.map .text))]
    let service : Service Nat := ⟨tokens, ([], 0), none⟩
    let session : Session (Wire (Loopback Nat)) (Pending Outgoing) :=
      Client.session ⟨.common, none⟩ ⟨⟨some service⟩, ⟨"/scep".toList, "0.0.0.0", 8080, []⟩, 0⟩
    let asked := (session.add (.call (.supports "POSTPKIOperation") none)).join
      (Client.line ⟨.common, none⟩ Loopback.transport) session.tasks.length
    Settings.ofValue value = .fine { capabilities := tokens } ∧
      asked.ending? session.tasks.length = some (.value (.truth false)) ∧
      asked.updates = [Session.listUpdated service.capabilityList true] ∧
      Audit.tokens service.capabilityList = tokens ∧
      Session.methodFor service.capabilityList ≠ .post := by
  intro tokens value service session asked
  have accepted : Settings.ofValue value = .fine { capabilities := tokens } := rfl
  have whole : ∀ (_ : Outgoing) (body : Octets), [body].flatten = body :=
    fun _ body => List.flatten_singleton
  have offers : service.capabilities = tokens := rfl
  have unlimited : session.deadline = none := rfl
  obtain ⟨told, _, _, _, calls⟩ := capabilities_unambiguous accepted offers
  obtain ⟨_, supports⟩ := calls ⟨.common, none⟩ ⟨rfl, rfl, rfl⟩ rfl
    (Responder.hears_common _ _) (Session.onTime_of_none unlimited) whole (by decide) (by decide)
  obtain ⟨ended, recorded⟩ := supports "POSTPKIOperation" (Or.inl rfl)
  have absent : Cache.advertises service.capabilityList "POSTPKIOperation" = false := by decide
  rw [absent] at ended
  exact ⟨accepted, ended, recorded, (told false).1, by decide⟩

end Client

end Scep
