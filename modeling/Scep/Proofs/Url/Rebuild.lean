import Scep.Proofs.Query.Text
import Scep.Proofs.Sequence
import Scep.Url.Parse

/-!
Rebuilding an address with another query.

The query is checked by itself and every other component as if there were
none, so an address that can be rebuilt without a query can be rebuilt with any
query that is not too long, and the query is all that differs.
-/

namespace Scep

namespace Url

/-! ### Checks -/

theorem control?_eq_none {text : List Char} (clean : ∀ char ∈ text, isControl char = false) :
    control? text = none := by
  have missing : text.findIdx? isControl = none := by
    rw [List.findIdx?_eq_none_iff]
    exact clean
  rw [control?, missing]

private theorem checkComponent_eq_ok {name : String} {fits : List Char → Bool} {text : List Char}
    (short : text.length ≤ lengthLimit) (clean : ∀ char ∈ text, isControl char = false)
    (fitting : fits text = true) : checkComponent name fits text = .ok () := by
  unfold checkComponent
  rw [if_neg (Nat.not_lt.mpr short), control?_eq_none clean]
  exact if_pos fitting

private theorem checkComponent_tooLong {name : String} {fits : List Char → Bool} {text : List Char}
    (long : lengthLimit < text.length) :
    checkComponent name fits text = .error (.componentTooLong name) := by
  unfold checkComponent
  rw [if_pos long]
  rfl

def checkQuery (query : List Char) : Except Flaw Unit :=
  checkComponent "query" (fun text => !text.contains '#') query

namespace Components

variable {components : Components} {url : Url}

/-- All checks but that of the query are passed. -/
structure Sound (components : Components) : Prop where
  scheme : checkComponent "scheme" isScheme components.scheme = .ok ()
  authority : checkComponent "authority"
    (fun text => !text.any fun char => ['/', '?', '#'].contains char) components.authority = .ok ()
  path : checkComponent "path" (fun text => !text.any fun char => ['?', '#'].contains char)
    components.path = .ok ()
  fragment : ∀ fragment ∈ components.fragment,
    checkComponent "fragment" (fun _ => true) fragment = .ok ()

def checkQuery? : Option (List Char) → Except Flaw Unit
  | some query => checkQuery query
  | none => .ok ()

/-- Sound components are built unless their query is refused. -/
theorem build_of_sound (sound : components.Sound) :
    components.build = (do
      checkQuery? components.query
      components.normalize) := by
  obtain ⟨scheme, authority, path, query, fragment⟩ := components
  unfold Components.build
  rw [sound.scheme, sound.authority, sound.path]
  cases fragment with
  | none => cases query <;> rfl
  | some fragment =>
      have checked := sound.fragment fragment rfl
      cases query with
      | none =>
          change (checkComponent "fragment" (fun _ => true) fragment >>= fun _ => _) = _
          rw [checked]
          rfl
      | some query =>
          change (checkQuery query >>= fun _ =>
            checkComponent "fragment" (fun _ => true) fragment >>= fun _ => _) = _
          rw [checked]
          rfl

theorem sound_of_build (built : components.build = .ok url) : components.Sound := by
  obtain ⟨scheme, authority, path, query, fragment⟩ := components
  unfold Components.build at built
  obtain ⟨_, schemeFits, built⟩ := bind_eq_ok built
  obtain ⟨_, authorityFits, built⟩ := bind_eq_ok built
  obtain ⟨_, pathFits, built⟩ := bind_eq_ok built
  refine ⟨schemeFits, authorityFits, pathFits, ?_⟩
  intro other present
  cases present
  cases query with
  | none =>
      obtain ⟨_, fragmentFits, _⟩ := bind_eq_ok built
      exact fragmentFits
  | some query =>
      obtain ⟨_, _, built⟩ := bind_eq_ok built
      obtain ⟨_, fragmentFits, _⟩ := bind_eq_ok built
      exact fragmentFits

private theorem normalize_withQuery (query : Option (List Char))
    (normal : components.normalize = .ok url) :
    ({ components with query } : Components).normalize =
      .ok { url with query := query.map (Text.Percent.encode isQuerySafe) } := by
  unfold Components.normalize at normal ⊢
  generalize splitAuthority components.authority = parts at normal ⊢
  obtain ⟨userInfo, hostText, portText⟩ := parts
  obtain ⟨host, normalHost, normal⟩ := bind_eq_ok normal
  obtain ⟨port, normalPort, normal⟩ := bind_eq_ok normal
  obtain ⟨_, checked, normal⟩ := bind_eq_ok normal
  cases normal
  simp only [normalHost, normalPort]
  change (checkPath _ _ _ >>= fun _ => _) = _
  rw [checked]
  rfl

private theorem build_withQuery (query : Option (List Char)) (built : components.build = .ok url) :
    ({ components with query } : Components).build = (do
      checkQuery? query
      .ok { url with query := query.map (Text.Percent.encode isQuerySafe) }) := by
  have sound := sound_of_build built
  have queried : ({ components with query } : Components).Sound :=
    ⟨sound.scheme, sound.authority, sound.path, sound.fragment⟩
  rw [build_of_sound sound] at built
  obtain ⟨_, _, normal⟩ := bind_eq_ok built
  rw [build_of_sound queried, normalize_withQuery query normal]

private theorem query_of_build (built : components.build = .ok url) :
    url.query = components.query.map (Text.Percent.encode isQuerySafe) := by
  rw [build_of_sound (sound_of_build built)] at built
  obtain ⟨_, _, normal⟩ := bind_eq_ok built
  have same := normalize_withQuery components.query normal
  rw [normal] at same
  exact congrArg Url.query (Except.ok.inj same)

end Components

/-! ### Written queries -/

private theorem isQuerySafe_of_isMarkedOrWritten {char : Char}
    (marked : Query.isMarkedOrWritten char = true) : isQuerySafe char = true := by
  have all : ∀ value < 0x80, Query.isMarkedOrWritten (Char.ofNat value) = true →
      isQuerySafe (Char.ofNat value) = true := by
    decide
  have small := Query.toNat_lt_of_isMarkedOrWritten marked
  rw [← Char.ofNat_toNat char] at marked ⊢
  exact all char.toNat small marked

private theorem isControl_of_isQuerySafe {char : Char} (safe : isQuerySafe char = true) :
    isControl char = false := by
  simp only [isQuerySafe, Bool.and_eq_true, decide_eq_true_eq] at safe
  simp only [isControl, Bool.or_eq_false_iff, decide_eq_false_iff_not, beq_eq_false_iff_ne]
  omega

variable {query : Query}

private theorem isQuerySafe_of_mem_render {char : Char} (member : char ∈ query.render) :
    isQuerySafe char = true :=
  isQuerySafe_of_isMarkedOrWritten (Query.isMarkedOrWritten_of_mem_render member)

private theorem encode_render (query : Query) :
    Text.Percent.encode isQuerySafe query.render = query.render :=
  Text.Percent.encode_of_safe fun _ member => isQuerySafe_of_mem_render member

private theorem checkQuery_render (short : query.render.length ≤ lengthLimit) :
    checkQuery query.render = .ok () := by
  apply checkComponent_eq_ok short
  · intro char member
    exact isControl_of_isQuerySafe (isQuerySafe_of_mem_render member)
  · rw [Bool.not_eq_true', List.contains_eq_mem, decide_eq_false_iff_not]
    intro member
    exact absurd (isQuerySafe_of_mem_render member) (by decide)

/-! ### Another query -/

variable {url target : Url}

private theorem withQuery_of_ne_nil (given : query ≠ []) :
    url.withQuery query = { url.components with query := some query.render }.build := by
  rw [withQuery, if_neg]
  rw [List.isEmpty_iff]
  exact given

private theorem withQuery_of_bare (bare : url.withQuery [] = .ok target) (given : query ≠ []) :
    url.withQuery query = (do
      checkQuery query.render
      .ok { target with query := some query.render }) := by
  have built := Components.build_withQuery (some query.render) bare
  rw [Option.map_some, encode_render] at built
  rw [withQuery_of_ne_nil given]
  exact built

theorem withQuery_of_short (bare : url.withQuery [] = .ok target) (given : query ≠ [])
    (short : query.render.length ≤ lengthLimit) :
    url.withQuery query = .ok { target with query := some query.render } := by
  rw [withQuery_of_bare bare given, checkQuery_render short]
  rfl

theorem withQuery_of_long (bare : url.withQuery [] = .ok target) (given : query ≠ [])
    (long : lengthLimit < query.render.length) :
    url.withQuery query = .error (.componentTooLong "query") := by
  rw [withQuery_of_bare bare given, checkQuery, checkComponent_tooLong long]
  rfl

theorem withQuery_of_long_fragment {fragment : List Char} (present : url.fragment = some fragment)
    (long : lengthLimit < fragment.length) (query : Query) :
    ∃ flaw, url.withQuery query = .error flaw := by
  cases built : url.withQuery query with
  | error flaw => exact ⟨flaw, rfl⟩
  | ok target =>
      have checked := (Components.sound_of_build built).fragment fragment present
      rw [checkComponent_tooLong long] at checked
      cases checked

theorem query_of_withQuery (given : query ≠ []) (built : url.withQuery query = .ok target) :
    target.query = some query.render := by
  rw [withQuery_of_ne_nil given] at built
  rw [Components.query_of_build built, Option.map_some, encode_render]

/-- An address takes a query exactly if it can be rebuilt without one and the
query is not too long. -/
theorem withQuery_eq_ok_iff (given : query ≠ []) :
    url.withQuery query = .ok target ↔
      ∃ bare, url.withQuery [] = .ok bare ∧ query.render.length ≤ lengthLimit ∧
        target = { bare with query := some query.render } := by
  constructor
  · intro built
    have rebuilt : url.withQuery [] = .ok { target with query := none } := by
      rw [withQuery_of_ne_nil given] at built
      have unqueried := Components.build_withQuery none built
      exact unqueried
    refine ⟨_, rebuilt, Nat.le_of_not_lt fun long => ?_, ?_⟩
    · rw [withQuery_of_long rebuilt given long] at built
      cases built
    · rw [← query_of_withQuery given built]
  · rintro ⟨bare, rebuilt, short, rfl⟩
    exact withQuery_of_short rebuilt given short

end Url

end Scep
