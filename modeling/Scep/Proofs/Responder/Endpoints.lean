import Scep.Proofs.Responder.Sharing
import Scep.Proofs.Settings.Route

/-!
What is reached at the paths of a responder.

Operations are answered at every route that settings accept.  The route is tried
before the path at which a responder says that it is well, so that path is out of
reach for exactly one of the routes, which is the same.
-/

namespace Scep

variable {State : Type}

/-! ### Paths -/

namespace Responder

variable {responder : Responder} {route : List Char}

theorem leadsTo_iff {path : List Char} (unbroken : path.getLast? ≠ some '\n') :
    leadsTo route path = true ↔ route = path := by
  rw [leadsTo, Bool.or_eq_true, beq_iff_eq, beq_iff_eq]
  constructor
  · rintro (same | broken)
    · exact same.symm
    · rw [broken, List.getLast?_concat] at unbroken
      exact absurd rfl unbroken
  · exact fun same => Or.inl same.symm

private theorem leadsTo_health : leadsTo route "/health".toList = true ↔ route = "/health".toList :=
  leadsTo_iff (show "/health".toList.getLast? ≠ some '\n' by decide)

private theorem find_health {path : List Char} (reached : leadsTo "/health".toList path = true)
    (passed : leadsTo responder.path path = false) (free : responder.IsFree path) :
    responder.find Method.get.name path = .endpoint .health := by
  have endpoints : responder.endpoints path = [.health] := by
    simp only [endpoints_of_isFree free, List.filterMap_cons, passed, reached, if_true,
      Bool.false_eq_true, if_false, List.filterMap_nil]
  have allowed : Endpoint.health.methods.contains Method.get.name = true := by decide
  simp only [find, endpoints, List.find?_cons, allowed]

end Responder

namespace Host

variable {host made : Host State} {responder : Responder} {arrival : Arrival} {state : State}
  {files : Files} {settings : Settings} {handler : Option (Handler State)}
  {pages : List (List Char × Page)} {records : List Audit.Record}

private theorem create_eq_ok
    (created : host.create files settings handler pages = .ok (made, responder, records)) :
    responder.path = settings.server.path.toList ∧ responder.pages = pages ∧
      ∃ certificates, made = ⟨some ⟨settings.capabilities, certificates, handler⟩⟩ := by
  unfold create at created
  cases loads : Certificate.Store.load files settings.ca with
  | error raised =>
      rw [loads] at created
      cases created
  | ok loaded =>
      rw [loads] at created
      cases created
      exact ⟨rfl, rfl, _, rfl⟩

def listPage (capabilities : List String) : Page :=
  let list := Text.Utf8.encode ("\n".intercalate capabilities).toList
  ⟨200, [("content-length", toString list.length), ("content-type", MediaType.text)], list⟩

private theorem page_list {service : Service State}
    (leads : responder.OperatesAt arrival.path)
    (asks : arrival.method = Method.get.name) (named : arrival.asked = Operation.getCaCaps.name)
    {octets : Octets} (carried : arrival.carried .get = .ok octets) (state : State) :
    ((Host.mk (some service)).serve responder arrival state).2.page =
      listPage service.capabilities := by
  have known := Operation.ofName?_eq_some_iff.mpr named
  rw [serve_operations rfl leads .get asks, Route.serve_performed asks known carried]
  rfl

private theorem page_health (asks : arrival.method = Method.get.name)
    (reached : Responder.leadsTo "/health".toList arrival.path = true)
    (passed : Responder.leadsTo responder.path arrival.path = false)
    (free : responder.IsFree arrival.path) :
    (host.serve responder arrival state).2.page = Responder.wellBeing := by
  simp only [serve, asks, Responder.find_health reached passed free]

def bare (path : List Char) : Arrival :=
  { method := Method.get.name, host := "", path, mark := "" }

private theorem page_hidden
    (created : host.create files settings handler pages = .ok (made, responder, records))
    (same : settings.server.path = "/health") (free : responder.IsFree "/health".toList)
    (state : State) :
    (made.serve responder (bare "/health".toList) state).2.page =
      .text 400 (Failure.unknownOperation "").message := by
  obtain ⟨mounted, _, certificates, rfl⟩ := create_eq_ok created
  have leads : responder.OperatesAt (bare "/health".toList).path := by
    refine ⟨?_, free⟩
    rw [mounted, same]
    exact Responder.leadsTo_self _
  have asks : (bare "/health".toList).method = Method.get.name := rfl
  have refuses : Refuses responder (bare "/health".toList) _ := refuses_unknown leads asks rfl
  rw [refuses.served]
  rfl

/-- What settings accept as a path begins with a slash, holds something else, and is
the route with slashes after it, which is accepted again as it is.  A responder on
that route answers with its capability list there, and it says that it is well unless
that is on the route.  The pages of the server are elsewhere, and a route without
braces is no pattern. -/
theorem create_endpoints_iff {entries : List (Value × Value)} {given : String}
    (accepted : Settings.Server.ofValue (.table entries) = .fine settings.server)
    (named : Value.lookup entries "path" = some (.text given))
    (literal : ∀ brace ∈ ['\x7b', '\x7d'], brace ∉ given.toList)
    (created : host.create files settings handler pages = .ok (made, responder, records))
    (free : ∀ page ∈ pages, ∀ path ∈ [settings.server.path.toList, "/health".toList],
      Responder.leadsTo page.1 path = false)
    (state : State) :
    let route := settings.server.path
    let answer := fun arrival => (made.serve responder arrival state).2.page
    ((given.toList.head? = some '/' ∧ ∃ char ∈ given.toList, char ≠ '/') ∧
      (∃ count, given.toList = route.toList ++ List.replicate count '/') ∧
      Settings.Check.route (.text route) = .fine route ∧ Settings.IsRoute route.toList ∧
      ∀ brace ∈ ['\x7b', '\x7d'], brace ∉ route.toList) ∧
    (∀ arrival : Arrival, arrival.method = "GET" → arrival.path = route.toList →
      arrival.asked = "GetCACaps" → (∃ octets, arrival.carried .get = .ok octets) →
        answer arrival = listPage settings.capabilities) ∧
    ((∀ arrival : Arrival, arrival.method = "GET" → arrival.path = "/health".toList →
      answer arrival = Responder.wellBeing) ↔ route ≠ "/health") := by
  intro route answer
  have checked : Settings.Check.route (.text given) = .fine route :=
    Settings.route_of_ofValue accepted named
  obtain ⟨isRoute, count, written⟩ := Settings.Check.route_eq_fine_iff.mp checked
  obtain ⟨mounted, own, certificates, shared⟩ := create_eq_ok created
  have elsewhere : ∀ path ∈ [route.toList, "/health".toList], responder.IsFree path := by
    intro path known page member
    exact free page (own ▸ member) path known
  refine ⟨⟨Settings.Check.exists_route_iff.mp ⟨route, checked⟩, ⟨count, written⟩,
    Settings.Check.route_of_isRoute isRoute, isRoute, fun brace known inside => ?_⟩, ?_, ?_, ?_⟩
  · refine literal brace known ?_
    rw [written]
    exact List.mem_append_left _ inside
  · rintro arrival asks there asked ⟨octets, carried⟩
    have leads : responder.OperatesAt arrival.path := by
      refine ⟨?_, elsewhere arrival.path (List.mem_pair.mpr (Or.inl there))⟩
      rw [mounted, there]
      exact Responder.leadsTo_self _
    simp only [answer, shared]
    exact page_list leads asks asked carried state
  · intro well same
    -- The route is tried first on its path, and a request without a query tells.
    have refused := page_hidden created same (elsewhere _ (List.mem_pair.mpr (Or.inr rfl))) state
    have answered := (well (bare "/health".toList) rfl rfl).symm.trans refused
    exact absurd (congrArg Page.status answered) (by decide : ¬200 = 400)
  · intro apart arrival asks there
    have passed : ¬Responder.leadsTo responder.path arrival.path = true := by
      intro leads
      rw [there, mounted, Responder.leadsTo_health] at leads
      exact apart (String.toList_inj.mp leads)
    have reached : Responder.leadsTo "/health".toList arrival.path = true := by
      rw [there]
      exact Responder.leadsTo_self _
    exact page_health asks reached (Bool.eq_false_iff.mpr passed)
      (elsewhere arrival.path (List.mem_pair.mpr (Or.inr there)))

/-- Two slashes after the route, and a server that documents itself. -/
theorem create_endpoints_iff_slashes :
    let settings : Settings := { ca := ⟨some "ca.pem", []⟩, capabilities := ["AES", "SHA-256"] }
    let pages : List (List Char × Page) :=
      ["/openapi.json", "/docs", "/docs/oauth2-redirect", "/redoc"].map
        fun path => (path.toList, Page.text 200 path)
    Settings.Server.ofValue (.table [(.text "path", .text "/scep//")]) = .fine settings.server ∧
      ∃ made responder records, (Host.mk (none : Option (Service Nat))).create
          [(["ca.pem".toList], smallFile)] settings none pages =
            .ok (made, responder, records) ∧
        (made.serve responder (question "/scep".toList .getCaCaps []) 0).2.page =
          listPage ["AES", "SHA-256"] ∧
        (made.serve responder (bare "/health".toList) 0).2.page = Responder.wellBeing := by
  intro settings pages
  let creation : Creation Nat := ⟨[(["ca.pem".toList], smallFile)], settings, none, pages⟩
  have own : creation.own? = some _ := Creation.own?_of_smallFile rfl rfl
  obtain ⟨records, created⟩ := Creation.create_of_own? own (Host.mk none)
  have accepted : Settings.Server.ofValue (.table [(.text "path", .text "/scep//")]) =
      .fine settings.server := by rfl
  have named : Value.lookup [(.text "path", .text "/scep//")] "path" = some (.text "/scep//") := by
    rfl
  have literal : ∀ brace ∈ ['\x7b', '\x7d'], brace ∉ "/scep//".toList := by simp
  have free : ∀ page ∈ pages, ∀ path ∈ ["/scep".toList, "/health".toList],
      Responder.leadsTo page.1 path = false := by
    decide +kernel
  obtain ⟨_, listed, well⟩ := create_endpoints_iff accepted named literal created free 0
  have params : (question "/scep".toList .getCaCaps []).params =
      [("operation", "GetCACaps"), ("message", "")] := Arrival.params_of_render rfl
  have asked : (question "/scep".toList .getCaCaps []).asked = "GetCACaps" := by
    rw [Arrival.asked, params]
    decide
  have carried : (question "/scep".toList .getCaCaps []).carried .get = .ok [] := by
    rw [Arrival.carried, params]
    rfl
  have apart : "/scep" ≠ "/health" := by decide
  exact ⟨accepted, _, _, records, created, listed _ rfl rfl asked ⟨[], carried⟩,
    well.mpr apart _ rfl rfl⟩

/-- On the route `/health` nothing says that the responder is well. -/
theorem create_hides_health :
    let settings : Settings := { server := { path := "/health" }, ca := ⟨some "ca.pem", []⟩ }
    Settings.Server.ofValue (.table [(.text "path", .text "/health")]) = .fine settings.server ∧
      ∃ made responder records, (Host.mk (none : Option (Service Nat))).create
          [(["ca.pem".toList], smallFile)] settings none [] = .ok (made, responder, records) ∧
        (made.serve responder (bare "/health".toList) 0).2.page =
          .text 400 "Unknown SCEP operation: \x27\x27" ∧
        (made.serve responder (bare "/health".toList) 0).2.page ≠ Responder.wellBeing := by
  intro settings
  let creation : Creation Nat := ⟨[(["ca.pem".toList], smallFile)], settings, none, []⟩
  have own : creation.own? = some _ := Creation.own?_of_smallFile rfl rfl
  obtain ⟨records, created⟩ := Creation.create_of_own? own (Host.mk none)
  have refused := page_hidden created rfl (fun _ none => nomatch none) 0
  refine ⟨by rfl, _, _, records, created, refused, fun well => ?_⟩
  exact absurd (congrArg Page.status (refused.symm.trans well)) (by decide : ¬400 = 200)

end Host

end Scep
