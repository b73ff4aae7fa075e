import Scep.Proofs.Text.Search
import Scep.Proofs.Url.Normal
import Scep.Url.Server

/-!
The scheme of a server address.

An address that begins with a scheme keeps it.  The default is for addresses that
do not, but it is left out as soon as the mark after a scheme stands anywhere in
the text, so an address with the mark in its path or its query is read without any
scheme: it is refused if the text with the default would be accepted.
-/

namespace Scep.Url

def IsSchemeName (scheme : List Char) : Prop :=
  ∃ first rest, scheme = first :: rest ∧ first.isAlpha = true ∧
    ∀ char ∈ rest, isSchemeChar char = true

/-- A text begins with a scheme and the mark after it. -/
structure HasScheme (text scheme : List Char) : Prop where
  name : IsSchemeName scheme
  begins : scheme ++ schemeMark <+: text

variable {text scheme rest : List Char} {url : Url}

private theorem isSchemeChar_of_isAlpha {char : Char} (letter : char.isAlpha = true) :
    isSchemeChar char = true := by
  simp only [isSchemeChar, Char.isAlphanum, letter, Bool.true_or]

private theorem IsSchemeName.forall_isSchemeChar (name : IsSchemeName scheme) :
    ∀ char ∈ scheme, isSchemeChar char = true := by
  obtain ⟨first, rest, rfl, letter, others⟩ := name
  exact List.forall_mem_cons.mpr ⟨isSchemeChar_of_isAlpha letter, others⟩

/-! ### Splitting -/

/-- The scheme of a text, empty if there is none, and what follows it. -/
def afterScheme (text : List Char) : List Char × List Char :=
  (splitScheme text).getD ([], text)

private theorem splitMark_fst (mark : Char) (text : List Char) :
    (splitMark mark text).1 = text.takeWhile (· ≠ mark) := by
  unfold splitMark
  dsimp only
  split <;> rfl

private theorem scheme_split (text : List Char) :
    (Components.split text).scheme = (afterScheme text).1 := by
  unfold Components.split afterScheme
  dsimp only
  split <;> rfl

private theorem authority_of_slashes (slashes : (afterScheme text).2 = '/' :: '/' :: rest) :
    (Components.split text).authority =
      ((rest.takeWhile (· ≠ '#')).takeWhile (· ≠ '?')).takeWhile (· ≠ '/') := by
  unfold afterScheme at slashes
  have cut : (('/' :: '/' :: rest).takeWhile (· ≠ '#')).takeWhile (· ≠ '?') =
      '/' :: '/' :: (rest.takeWhile (· ≠ '#')).takeWhile (· ≠ '?') := rfl
  unfold Components.split
  simp only [splitMark_fst, slashes, cut]

private theorem authority_of_no_slashes (slashes : ∀ rest, (afterScheme text).2 ≠ '/' :: '/' ::
    rest) :
    (Components.split text).authority = [] := by
  have kept : ∀ (fits : Char → Bool) (whole : List Char),
      (∀ rest, whole ≠ '/' :: '/' :: rest) → ∀ rest, whole.takeWhile fits ≠ '/' :: '/' :: rest := by
    intro fits whole none rest found
    have begins := List.takeWhile_prefix (l := whole) fits
    rw [found] at begins
    obtain ⟨later, same⟩ := begins
    exact none (rest ++ later) same.symm
  unfold afterScheme at slashes
  unfold Components.split
  simp only [splitMark_fst]
  split
  · next found => exact absurd found (kept _ _ (kept _ _ slashes) _)
  · rfl

private theorem splitScheme_of_isSchemeName (name : IsSchemeName scheme) (rest : List Char) :
    splitScheme (scheme ++ ':' :: rest) = some (scheme, rest) := by
  have whole : (scheme ++ ':' :: rest).takeWhile isSchemeChar = scheme := by
    rw [List.takeWhile_append_of_pos name.forall_isSchemeChar,
      List.takeWhile_cons_of_neg (by decide), List.append_nil]
  obtain ⟨first, others, rfl, letter, _⟩ := name
  unfold splitScheme
  simp only [whole, List.drop_left]
  rw [if_pos]
  simp only [List.head?_cons, Option.any_some, letter, Bool.or_true]

private theorem of_splitScheme (found : splitScheme text = some (scheme, rest)) :
    text = scheme ++ ':' :: rest ∧ (scheme = [] ∨ IsSchemeName scheme) := by
  obtain ⟨later, whole⟩ := List.takeWhile_prefix (l := text) isSchemeChar
  have fits : ∀ char ∈ text.takeWhile isSchemeChar, isSchemeChar char = true :=
    fun _ member => List.mem_takeWhile_imp member
  have after : text.drop (text.takeWhile isSchemeChar).length = later := by
    have dropped := @List.drop_left Char (text.takeWhile isSchemeChar) later
    rwa [whole] at dropped
  unfold splitScheme at found
  simp only [after] at found
  generalize text.takeWhile isSchemeChar = taken at whole fits found
  split at found
  · next rest' =>
      split at found
      · next begins =>
          cases found
          refine ⟨whole.symm, ?_⟩
          cases scheme with
          | nil => exact Or.inl rfl
          | cons first others =>
              simp only [List.isEmpty_cons, Bool.false_or, List.head?_cons, Option.any_some] at begins
              exact Or.inr ⟨first, others, rfl, begins,
                fun char member => fits char (List.mem_cons_of_mem first member)⟩
      · cases found
  · cases found

private theorem afterScheme_of_hasScheme (has : HasScheme text scheme) :
    ∃ rest, text = scheme ++ ':' :: '/' :: '/' :: rest ∧
      afterScheme text = (scheme, '/' :: '/' :: rest) := by
  obtain ⟨rest, rfl⟩ := has.begins
  have text : scheme ++ schemeMark ++ rest = scheme ++ ':' :: '/' :: '/' :: rest :=
    List.append_assoc scheme schemeMark rest
  refine ⟨rest, text, ?_⟩
  rw [text, afterScheme, splitScheme_of_isSchemeName has.name]
  rfl

/-- Without a scheme two slashes begin a text, or there is a colon alone before
them. -/
theorem slashes_of_not_hasScheme (bare : ∀ scheme, ¬HasScheme text scheme)
    (slashes : (afterScheme text).2 = '/' :: '/' :: rest) :
    (afterScheme text).1 = [] ∧ (text = '/' :: '/' :: rest ∨ text = ':' :: '/' :: '/' :: rest) := by
  unfold afterScheme at slashes ⊢
  cases found : splitScheme text with
  | none =>
      rw [found] at slashes
      exact ⟨rfl, Or.inl slashes⟩
  | some parts =>
      obtain ⟨scheme, after⟩ := parts
      rw [found] at slashes
      cases (show after = '/' :: '/' :: rest from slashes)
      obtain ⟨whole, none | name⟩ := of_splitScheme found
      · rw [none] at whole
        exact ⟨none, Or.inr whole⟩
      · refine absurd ⟨name, rest, ?_⟩ (bare scheme)
        rw [whole]
        exact List.append_assoc scheme schemeMark rest

/-! ### Hosts -/

private theorem Address.foldl_advance_nil (host : List Char) : host.foldl advance [] = [] := by
  induction host with
  | nil => rfl
  | cons char rest ih => exact ih

theorem Address.looksLikeVersion4_of_not_isDigit {char : Char} (sharp : char.isDigit = false) :
    looksLikeVersion4 (char :: rest) = false := by
  have stuck : advance [0] char = [] := by
    simp [advance, sharp]
  rw [looksLikeVersion4, List.foldl_cons, stuck, foldl_advance_nil]
  rfl

theorem normalHost_of_name {first : Char} (sharp : first.isDigit = false) (bare : first ≠ '[')
    (plain : (first :: rest).all Text.isAscii = true) :
    normalHost (first :: rest) =
      .ok (Text.Percent.encode isHostSafe ((first :: rest).map Char.toLower)) := by
  have unbracketed : (some first == some '[') = false :=
    beq_eq_false_iff_ne.mpr fun same => bare (Option.some.inj same)
  unfold normalHost
  simp only [List.isEmpty_cons, Address.looksLikeVersion4_of_not_isDigit sharp, List.head?_cons,
    unbracketed, Bool.false_and, plain, Bool.false_eq_true, if_false, if_true]

def writtenHost (text : List Char) : List Char :=
  (splitAuthority (Components.split text).authority).2.1

theorem parse_of_clean (short : text.length ≤ lengthLimit) (clean : control? text = none) :
    parse text = (Components.split text).normalize := by
  unfold parse
  rw [if_neg (Nat.not_lt.mpr short), clean]

private theorem gives_of_parse (read : parse text = .ok url) : (Components.split text).Gives url :=
    by
  unfold parse at read
  by_cases long : lengthLimit < text.length
  · rw [if_pos long] at read
    cases read
  · rw [if_neg long] at read
    cases clean : control? text with
    | some found =>
        rw [clean] at read
        cases read
    | none =>
        rw [clean] at read
        exact Components.gives_of_normalize read

theorem normalHost_writtenHost (read : parse text = .ok url) :
    normalHost (writtenHost text) = .ok url.host :=
  (gives_of_parse read).host

private theorem slashes_of_host (read : parse text = .ok url) (hosted : url.host ≠ []) :
    ∃ rest, (afterScheme text).2 = '/' :: '/' :: rest := by
  by_contra none
  have bare := authority_of_no_slashes fun rest same => none ⟨rest, same⟩
  have host := normalHost_writtenHost read
  rw [writtenHost, bare] at host
  exact hosted (Except.ok.inj host).symm

private theorem hasScheme_default (text : List Char) :
    HasScheme ("http://".toList ++ text) "http".toList where
  name := by
    have letters : "http".toList = ['h', 't', 't', 'p'] := by decide
    have fits : ['t', 't', 'p'].all isSchemeChar = true := by decide
    rw [letters]
    exact ⟨'h', ['t', 't', 'p'], rfl, by decide, List.all_eq_true.mp fits⟩
  begins := by
    have split : "http://".toList = "http".toList ++ schemeMark := by decide
    rw [split]
    exact List.prefix_append _ text

private theorem host_of_slashes {colon : List Char} (marked : colon = [] ∨ colon = [':'])
    (read : parse ("http://".toList ++ (colon ++ '/' :: '/' :: rest)) = .ok url) : url.host = [] := by
  obtain ⟨after, whole, split⟩ := afterScheme_of_hasScheme (hasScheme_default _)
  have same : after = colon ++ '/' :: '/' :: rest :=
    (List.append_cancel_left (show "http://".toList ++ _ = "http://".toList ++ after from whole)).symm
  have authority := authority_of_slashes (congrArg Prod.snd split)
  have host := normalHost_writtenHost read
  rw [writtenHost, authority, same] at host
  rcases marked with rfl | rfl
  · have cut : ((([] ++ '/' :: '/' :: rest).takeWhile (· ≠ '#')).takeWhile (· ≠ '?')).takeWhile
        (· ≠ '/') = [] := rfl
    have none : normalHost (splitAuthority []).2.1 = .ok [] := rfl
    rw [cut, none] at host
    exact (Except.ok.inj host).symm
  · have cut : ((([':'] ++ '/' :: '/' :: rest).takeWhile (· ≠ '#')).takeWhile (· ≠ '?')).takeWhile
        (· ≠ '/') = [':'] := rfl
    have none : normalHost (splitAuthority [':']).2.1 = .ok [] := rfl
    rw [cut, none] at host
    exact (Except.ok.inj host).symm

/-! ### Server addresses -/

private theorem withScheme_of_marked (marked : schemeMark <:+: text) : withScheme text = text :=
  if_pos (Text.contains_iff.mpr marked)

private theorem withScheme_of_unmarked (unmarked : ¬schemeMark <:+: text) :
    withScheme text = "http://".toList ++ text :=
  if_neg fun found => unmarked (Text.contains_iff.mp found)

theorem withScheme_default (text : List Char) :
    withScheme ("http://".toList ++ text) = "http://".toList ++ text :=
  withScheme_of_marked ⟨"http".toList, text, rfl⟩

theorem ofServer_of_flaw {flaw : Flaw} (read : parse (withScheme text) = .error flaw) :
    ofServer text = .error ⟨.failure (.invalidServerUrl (String.ofList (withScheme text))
      flaw.message), some flaw.fault⟩ := by
  simp only [ofServer, read]

private theorem ofServer_of_hostless (read : parse (withScheme text) = .ok url)
    (hostless : url.host = []) :
    ofServer text = .error ⟨.failure (.invalidServerUrl (String.ofList (withScheme text))
      "missing host"), none⟩ := by
  have shown : url.shownHost = .ok [] := by
    rw [shownHost, hostless]
    rfl
  simp only [ofServer, read, shown]

private theorem of_ofServer_eq_ok (made : ofServer text = .ok url) :
    parse (withScheme text) = .ok url ∧ ∃ first rest, url.shownHost = .ok (first :: rest) := by
  unfold ofServer at made
  dsimp only at made
  cases read : parse (withScheme text) with
  | error flaw =>
      rw [read] at made
      cases made
  | ok parsed =>
      simp only [read] at made
      cases shown : parsed.shownHost with
      | error flaw =>
          rw [shown] at made
          cases made
      | ok host =>
          rw [shown] at made
          cases host with
          | nil => cases made
          | cons first rest =>
              cases made
              exact ⟨rfl, first, rest, shown⟩

/-- Of a text without a scheme, what is read has a host only where slashes begin
it, and then it has no scheme and the text with the default has no host. -/
theorem of_host_of_not_hasScheme (bare : ∀ scheme, ¬HasScheme text scheme)
    (read : parse text = .ok url) (hosted : url.host ≠ []) :
    url.scheme = [] ∧ ∀ other, parse ("http://".toList ++ text) = .ok other → other.host = [] := by
  obtain ⟨rest, slashes⟩ := slashes_of_host read hosted
  obtain ⟨none, begins⟩ := slashes_of_not_hasScheme bare slashes
  refine ⟨?_, fun other full => ?_⟩
  · rw [(gives_of_parse read).scheme, scheme_split, none]
    rfl
  · rcases begins with rfl | rfl
    · exact host_of_slashes (Or.inl rfl) full
    · exact host_of_slashes (Or.inr rfl) full

private theorem host_ne_nil_of_shownHost {first : Char}
    (shown : url.shownHost = .ok (first :: rest)) :
    url.host ≠ [] := by
  intro none
  rw [shownHost, none] at shown
  cases shown

/-- A server address with a scheme keeps it, in small letters.  One without a
scheme is read as with the default in front if the mark after a scheme stands
nowhere in it.  If it does, no address with that default comes about: what is
accepted has no scheme and would be refused with the default, and what would be
accepted with the default is refused. -/
theorem ofServer_scheme (text : List Char) :
    let full := "http://".toList ++ text
    (∀ scheme, HasScheme text scheme → ∀ url, ofServer text = .ok url →
        url.scheme = scheme.map Char.toLower) ∧
      ((∀ scheme, ¬HasScheme text scheme) →
        (∀ url, ofServer full = .ok url → url.scheme = "http".toList) ∧
        (¬schemeMark <:+: text → ofServer text = ofServer full) ∧
        (schemeMark <:+: text →
          (∀ url, ofServer text = .ok url →
            url.scheme = [] ∧ ∀ other, ofServer full ≠ .ok other) ∧
          ∀ url, ofServer full = .ok url → ∃ reason origin, ofServer text =
            .error ⟨.failure (.invalidServerUrl (String.ofList text) reason), origin⟩)) := by
  intro full
  have kept : ∀ {text scheme : List Char}, HasScheme text scheme → ∀ url, ofServer text = .ok url →
      url.scheme = scheme.map Char.toLower := by
    intro text scheme has url made
    obtain ⟨rest, whole, split⟩ := afterScheme_of_hasScheme has
    have marked : schemeMark <:+: text := ⟨scheme, rest, by rw [whole, List.append_assoc]; rfl⟩
    have read := (of_ofServer_eq_ok made).1
    rw [withScheme_of_marked marked] at read
    rw [(gives_of_parse read).scheme, scheme_split, split]
  refine ⟨fun scheme has => kept has, fun bare => ⟨?_, fun unmarked => ?_, fun marked => ?_⟩⟩
  · intro url made
    rw [kept (hasScheme_default text) url made]
    decide
  · unfold ofServer
    rw [withScheme_of_unmarked unmarked, withScheme_default]
  · have same := withScheme_of_marked marked
    have apart : ∀ url, parse text = .ok url → url.host ≠ [] →
        url.scheme = [] ∧ ∀ other, ofServer full ≠ .ok other := by
      intro url read hosted
      obtain ⟨none, hostless⟩ := of_host_of_not_hasScheme bare read hosted
      refine ⟨none, fun other made => ?_⟩
      obtain ⟨fullRead, first, rest, shown⟩ := of_ofServer_eq_ok made
      rw [withScheme_default] at fullRead
      exact host_ne_nil_of_shownHost shown (hostless other fullRead)
    constructor
    · intro url made
      obtain ⟨read, first, rest, shown⟩ := of_ofServer_eq_ok made
      rw [same] at read
      exact apart url read (host_ne_nil_of_shownHost shown)
    · intro url made
      cases read : parse text with
      | error flaw =>
          have refused := ofServer_of_flaw (same.symm ▸ read)
          rw [same] at refused
          exact ⟨_, _, refused⟩
      | ok parsed =>
          by_cases hosted : parsed.host = []
          · have refused := ofServer_of_hostless (same.symm ▸ read) hosted
            rw [same] at refused
            exact ⟨_, _, refused⟩
          · exact absurd made ((apart parsed read hosted).2 url)

def linked : Url :=
  { scheme := "http".toList, host := "ca.test".toList, path := "/scep".toList
    query := some "next=http://x".toList }

private theorem parse_linked : parse "http://ca.test/scep?next=http://x".toList = .ok linked := by
  have clean : control? "http://ca.test/scep?next=http://x".toList = none := by cbv
  have parts : Components.split "http://ca.test/scep?next=http://x".toList =
      ⟨"http".toList, "ca.test".toList, "/scep".toList, some "next=http://x".toList, none⟩ := by
    cbv
  have authority : splitAuthority "ca.test".toList = ([], "ca.test".toList, []) := by cbv
  have host : normalHost "ca.test".toList = .ok "ca.test".toList :=
    (normalHost_of_name (by decide) (by decide) (by decide)).trans (by decide)
  rw [parse_of_clean (by decide) clean, parts]
  unfold Components.normalize
  simp only [authority, host]
  cbv

/-- Without a scheme, all of the same address is path and query. -/
theorem parse_bare : parse "ca.test/scep?next=http://x".toList =
    .ok { path := "ca.test/scep".toList, query := some "next=http://x".toList } := by
  have clean : control? "ca.test/scep?next=http://x".toList = none := by cbv
  rw [parse_of_clean (by decide) clean]
  cbv

/-- An address in the query of an address without a scheme. -/
theorem ofServer_ignores_default :
    (∀ scheme, ¬HasScheme "ca.test/scep?next=http://x".toList scheme) ∧
      ofServer ("http://".toList ++ "ca.test/scep?next=http://x".toList) = .ok linked ∧
      ofServer "ca.test/scep?next=http://x".toList =
        .error ⟨.failure (.invalidServerUrl "ca.test/scep?next=http://x" "missing host"), none⟩ := by
  have marked : schemeMark <:+: "ca.test/scep?next=http://x".toList :=
    Text.contains_iff.mp (by decide)
  refine ⟨fun scheme has => ?_, ?_, ?_⟩
  · obtain ⟨rest, _, split⟩ := afterScheme_of_hasScheme has
    have none : (afterScheme "ca.test/scep?next=http://x".toList).1 = [] := by decide
    rw [split] at none
    obtain ⟨first, others, name, _⟩ := has.name
    cases name.symm.trans none
  · have read : parse (withScheme ("http://".toList ++ "ca.test/scep?next=http://x".toList)) =
        .ok linked := (congrArg parse (withScheme_default _)).trans parse_linked
    have shown : linked.shownHost = .ok "ca.test".toList := by cbv
    simp only [ofServer, read, shown]
    rfl
  · have same := withScheme_of_marked marked
    have refused := ofServer_of_hostless (same.symm ▸ parse_bare) rfl
    rw [same] at refused
    exact refused

end Scep.Url
