import Scep.Proofs.Idn.Name

/-!
Addresses that were normalized once.

Scheme, user information, path and fragment of such an address are left as they
are when it is normalized again, with whatever query.  For the path this is so
because no dot segment is left and none comes about by escaping, and for the user
information because it ends at the last at sign, of which the host and the port
have none.
-/

namespace Scep

namespace Url

private theorem isPathSafe_slash : isPathSafe '/' = true := by decide

private theorem covers_userInfo : Text.Percent.Covers isUserInfoSafe :=
  .of_ascii (by decide) (by decide)

private theorem covers_path : Text.Percent.Covers isPathSafe := .of_ascii (by decide) (by decide)

private theorem covers_fragment : Text.Percent.Covers isFragmentSafe :=
  .of_ascii (by decide) (by decide)

/-! ### Dot segments -/

variable {path : List Char}

/-- No segment stands for the directory that it is in or for the one above. -/
def IsUndotted (segments : List (List Char)) : Prop :=
  ['.'] ∉ segments ∧ ['.', '.'] ∉ segments

private theorem normalPath_of_isUndotted (undotted : IsUndotted (Text.splitOn '/' path)) :
    normalPath path = path := by
  unfold normalPath
  simp only [List.contains_eq_mem, undotted.1, undotted.2, decide_false, Bool.or_self,
    Bool.false_eq_true, if_false]

private theorem pathStep_forall {holds : List Char → Prop} {done : List (List Char)}
    {segment : List Char} (all : ∀ earlier ∈ done, holds earlier)
    (own : segment ≠ ['.'] → segment ≠ ['.', '.'] → holds segment) :
    ∀ earlier ∈ pathStep done segment, holds earlier := by
  unfold pathStep
  by_cases here : segment = ['.']
  · rwa [if_pos here]
  · rw [if_neg here]
    by_cases above : segment = ['.', '.']
    · rw [if_pos above]
      split
      · exact all
      · exact all
      · next first rest _ => exact fun earlier member => all earlier (List.mem_cons_of_mem first member)
    · rw [if_neg above]
      exact List.forall_mem_cons.mpr ⟨own here above, all⟩

private theorem foldl_pathStep_forall {holds : List Char → Prop} {segments done : List (List Char)}
    (all : ∀ earlier ∈ done, holds earlier)
    (own : ∀ segment ∈ segments, segment ≠ ['.'] → segment ≠ ['.', '.'] → holds segment) :
    ∀ earlier ∈ segments.foldl pathStep done, holds earlier := by
  induction segments generalizing done with
  | nil => exact all
  | cons segment rest ih =>
      exact ih (pathStep_forall all (own segment List.mem_cons_self))
        fun later member => own later (List.mem_cons_of_mem segment member)

private theorem isUndotted_normalPath (path : List Char) :
    IsUndotted (Text.splitOn '/' (normalPath path)) := by
  by_cases undotted : IsUndotted (Text.splitOn '/' path)
  · rwa [normalPath_of_isUndotted undotted]
  · have kept := @foldl_pathStep_forall
      (fun segment => '/' ∉ segment ∧ segment ≠ ['.'] ∧ segment ≠ ['.', '.'])
      (Text.splitOn '/' path) [] (fun _ member => absurd member List.not_mem_nil)
      (fun segment member here above => ⟨Text.mark_not_mem_of_mem_splitOn member, here, above⟩)
    have resolved : normalPath path =
        ['/'].intercalate ((Text.splitOn '/' path).foldl pathStep []).reverse := by
      have dotted : ((Text.splitOn '/' path).contains ['.'] ||
          (Text.splitOn '/' path).contains ['.', '.']) = true := by
        rw [IsUndotted, not_and_or, not_not, not_not] at undotted
        rw [Bool.or_eq_true, List.contains_iff_mem, List.contains_iff_mem]
        exact undotted
      unfold normalPath
      exact if_pos dotted
    rw [resolved]
    -- With nothing kept the path is empty, and its only segment as well.
    generalize (Text.splitOn '/' path).foldl pathStep [] = done at kept
    by_cases empty : done = []
    · rw [empty]
      exact ⟨by decide, by decide⟩
    · rw [Text.splitOn_intercalate (fun none => empty (List.reverse_eq_nil_iff.mp none))
        fun segment member => (kept segment (List.mem_reverse.mp member)).1]
      exact ⟨fun member => (kept _ (List.mem_reverse.mp member)).2.1 rfl,
        fun member => (kept _ (List.mem_reverse.mp member)).2.2 rfl⟩

/-- A path that was resolved and escaped has nothing left to be resolved. -/
theorem normalPath_encode_normalPath (path : List Char) :
    normalPath (Text.Percent.encode isPathSafe (normalPath path)) =
      Text.Percent.encode isPathSafe (normalPath path) := by
  have undotted := isUndotted_normalPath path
  -- A dot segment has no escape, so it would have to be there before escaping.
  have own : ∀ segment : List Char, '%' ∉ segment →
      segment ∈ Text.splitOn '/' (Text.Percent.encode isPathSafe (normalPath path)) →
      segment ∈ Text.splitOn '/' (normalPath path) := by
    intro segment unescaped member
    rw [Text.Percent.splitOn_encode isPathSafe_slash (by decide) (by decide)] at member
    obtain ⟨given, there, rfl⟩ := List.mem_map.mp member
    rwa [Text.Percent.encode_of_unescaped unescaped]
  exact normalPath_of_isUndotted
    ⟨fun member => undotted.1 (own _ (by decide) member),
      fun member => undotted.2 (own _ (by decide) member)⟩

/-! ### Hosts and ports -/

private theorem at_not_mem_decimal (number : Int) : '@' ∉ decimal number := by
  intro member
  rcases List.mem_append.mp member with sign | digits
  · split at sign
    · exact absurd (List.mem_singleton.mp sign) (by decide)
    · cases sign
  · exact absurd (Nat.isDigit_of_mem_toDigits (by decide) (by decide) digits) (by decide)

private theorem at_not_mem_normalHost {host normal : List Char} (absent : '@' ∉ host)
    (done : normalHost host = .ok normal) : '@' ∉ normal := by
  unfold normalHost at done
  split at done
  · cases done
    exact List.not_mem_nil
  split at done
  · split at done
    · cases done
      exact absent
    · cases done
  split at done
  · simp only at done
    split at done
    · cases done
      exact fun member => absent (List.mem_of_mem_drop (List.mem_of_mem_dropLast member))
    · cases done
  split at done
  · cases done
    intro member
    rcases Text.Percent.mem_encode member with ⟨_, shown⟩ | sign | digit
    · exact absurd shown (by decide)
    · exact absurd sign (by decide)
    · exact absurd digit (by decide)
  · split at done
    · next name encoded =>
        cases done
        intro member
        have small := Idn.mem_of_mem_encodedName (by decide) (by decide) (by decide) encoded member
        exact absent (Text.mem_of_mem_lower (by decide) (by decide) small)
    · cases done

private theorem at_not_mem_netloc {url : Url} (absent : '@' ∉ url.host) : '@' ∉ url.netloc := by
  intro member
  rcases List.mem_append.mp member with host | port
  · split at host
    · rcases List.mem_append.mp host with front | bracket
      · exact absent ((List.mem_cons.mp front).resolve_left (by decide))
      · exact absurd (List.mem_singleton.mp bracket) (by decide)
    · exact absent host
  · split at port
    · cases port
    · exact at_not_mem_decimal _ ((List.mem_cons.mp port).resolve_left (by decide))

/-! ### Splitting -/

private theorem splitAuthority_userInfo (userInfo : List Char) {place : List Char}
    (absent : '@' ∉ place) :
    (splitAuthority ((if userInfo.isEmpty then [] else userInfo ++ ['@']) ++ place)).1 =
      userInfo := by
  cases userInfo with
  | nil =>
      change (place.take (place.length - (place.reverse.takeWhile (· ≠ '@')).reverse.length - 1)) = _
      rw [Text.takeWhile_reverse_of_not_mem absent, List.reverse_reverse, Nat.sub_self]
      rfl
  | cons first rest =>
      have joined : (if (first :: rest).isEmpty then [] else (first :: rest) ++ ['@']) ++ place =
          (first :: rest) ++ '@' :: place := List.append_assoc _ ['@'] place
      rw [joined]
      unfold splitAuthority
      simp only
      rw [Text.takeWhile_reverse_after absent, List.reverse_reverse]
      apply List.take_left'
      rw [List.length_append, List.length_cons, List.length_cons]
      omega

private theorem at_not_mem_splitAuthority_host (authority : List Char) :
    '@' ∉ (splitAuthority authority).2.1 := by
  have absent : '@' ∉ (authority.reverse.takeWhile (· ≠ '@')).reverse := by
    intro member
    have other := List.mem_takeWhile_imp (List.mem_reverse.mp member)
    exact absurd rfl (of_decide_eq_true other)
  unfold splitAuthority
  simp only
  generalize (authority.reverse.takeWhile (· ≠ '@')).reverse = place at absent
  split
  · intro member
    have within := List.dropWhile_subset _ (List.mem_reverse.mp member)
    exact absent (List.mem_reverse.mp within)
  · exact fun member => absent (List.takeWhile_subset _ member)

/-! ### Normalizing -/

/-- Whether dot segments are resolved: not in the path of an address that has
neither a scheme nor an authority. -/
def resolvesDots (url : Url) : Bool := !url.scheme.isEmpty || !url.authority.isEmpty

private theorem isEmpty_authority (url : Url) :
    (!url.authority.isEmpty) = (!url.userInfo.isEmpty || !url.host.isEmpty || url.port.isSome) := by
  have netloc : (!url.netloc.isEmpty) = (!url.host.isEmpty || url.port.isSome) := by
    unfold netloc
    cases url.port with
    | some port => simp
    | none =>
        cases url.host with
        | nil => rfl
        | cons first rest =>
            rw [List.append_nil]
            split <;> rfl
  unfold authority
  cases url.userInfo with
  | nil => exact netloc
  | cons first rest => rfl

/-- What components are normalized to, the port apart. -/
structure Components.Gives (components : Components) (url : Url) : Prop where
  scheme : url.scheme = components.scheme.map Char.toLower
  userInfo : url.userInfo =
    Text.Percent.encode isUserInfoSafe (splitAuthority components.authority).1
  host : normalHost (splitAuthority components.authority).2.1 = .ok url.host
  port : normalPort (splitAuthority components.authority).2.2 components.scheme = .ok url.port
  path : url.path = Text.Percent.encode isPathSafe
    (if url.resolvesDots then normalPath components.path else components.path)
  fragment : url.fragment = components.fragment.map (Text.Percent.encode isFragmentSafe)

theorem Components.gives_of_normalize {components : Components} {url : Url}
    (normal : components.normalize = .ok url) : components.Gives url := by
  unfold normalize at normal
  obtain ⟨host, hosted, normal⟩ := bind_eq_ok normal
  obtain ⟨port, ported, normal⟩ := bind_eq_ok normal
  obtain ⟨_, _, normal⟩ := bind_eq_ok normal
  cases normal
  refine ⟨rfl, rfl, hosted, ported, ?_, rfl⟩
  simp only [resolvesDots, isEmpty_authority]

/-- An address that normalizing leaves as it is, but for the port and the query. -/
structure IsNormal (url : Url) : Prop where
  scheme : url.scheme.map Char.toLower = url.scheme
  userInfo : Text.Percent.encode isUserInfoSafe url.userInfo = url.userInfo
  netloc : '@' ∉ url.netloc
  path : Text.Percent.encode isPathSafe url.path = url.path
  resolved : url.resolvesDots = true → normalPath url.path = url.path
  fragment : url.fragment.map (Text.Percent.encode isFragmentSafe) = url.fragment

theorem Components.Gives.isNormal {components : Components} {url : Url}
    (gives : components.Gives url) : url.IsNormal where
  scheme := by
    rw [gives.scheme, List.map_map]
    exact List.map_congr_left fun char _ => Char.toLower_toLower_eq_toLower char
  userInfo := by rw [gives.userInfo, Text.Percent.encode_encode covers_userInfo]
  netloc := at_not_mem_netloc
    (at_not_mem_normalHost (at_not_mem_splitAuthority_host components.authority) gives.host)
  path := by
    rw [gives.path, Text.Percent.encode_encode covers_path]
  resolved := by
    intro resolves
    rw [gives.path, if_pos resolves, normalPath_encode_normalPath]
  fragment := by
    rw [gives.fragment, Option.map_map]
    exact congrArg (Option.map · _) (funext fun text =>
      Text.Percent.encode_encode covers_fragment text)

/-! ### Normalizing again -/

structure Keeps (target url : Url) : Prop where
  scheme : target.scheme = url.scheme
  userInfo : target.userInfo = url.userInfo
  path : target.path = url.path
  fragment : target.fragment = url.fragment

theorem Keeps.trans {last target url : Url} (later : last.Keeps target)
    (earlier : target.Keeps url) : last.Keeps url where
  scheme := later.scheme.trans earlier.scheme
  userInfo := later.userInfo.trans earlier.userInfo
  path := later.path.trans earlier.path
  fragment := later.fragment.trans earlier.fragment

variable {url target : Url}

/-- An address whose dots were not resolved has no authority that could make it so
the next time. -/
theorem resolvesDots_of_gives {query : Option (List Char)}
    (gives : ({ url.components with query } : Components).Gives target)
    (unresolved : url.resolvesDots = false) : target.resolvesDots = false := by
  rw [resolvesDots, Bool.or_eq_false_iff, Bool.not_eq_false', Bool.not_eq_false',
    List.isEmpty_iff, List.isEmpty_iff] at unresolved
  obtain ⟨scheme, authority⟩ := unresolved
  have sameScheme : target.scheme = [] := by
    rw [gives.scheme]
    exact congrArg (List.map Char.toLower) scheme
  have sameUserInfo : target.userInfo = [] := by
    rw [gives.userInfo]
    exact congrArg (fun text => Text.Percent.encode isUserInfoSafe (splitAuthority text).1) authority
  have bare : ({ url.components with query } : Components).authority = [] := authority
  have host := gives.host
  have port := gives.port
  rw [bare] at host port
  have sameHost : target.host = [] := (Except.ok.inj host).symm
  have samePort : target.port = none := (Except.ok.inj port).symm
  rw [resolvesDots, isEmpty_authority, sameScheme, sameUserInfo, sameHost, samePort]
  rfl

private theorem IsNormal.keeps {query : Option (List Char)} (normal : url.IsNormal)
    (gives : ({ url.components with query } : Components).Gives target) : target.Keeps url where
  scheme := gives.scheme.trans normal.scheme
  userInfo := by
    have split : (splitAuthority url.authority).1 = url.userInfo :=
      splitAuthority_userInfo url.userInfo normal.netloc
    rw [gives.userInfo]
    exact (congrArg (Text.Percent.encode isUserInfoSafe) split).trans normal.userInfo
  path := by
    have resolved : (if target.resolvesDots then normalPath url.path else url.path) = url.path := by
      cases resolves : url.resolvesDots with
      | true => rw [normal.resolved resolves, ite_self]
      | false => simp only [resolvesDots_of_gives gives resolves, Bool.false_eq_true, if_false]
    rw [gives.path]
    exact (congrArg (Text.Percent.encode isPathSafe) resolved).trans normal.path
  fragment := gives.fragment.trans normal.fragment

theorem IsNormal.withQuery {query : Query} (normal : url.IsNormal)
    (built : url.withQuery query = .ok target) : target.IsNormal ∧ target.Keeps url := by
  unfold Url.withQuery at built
  rw [Components.build_of_sound (Components.sound_of_build built)] at built
  obtain ⟨_, _, done⟩ := bind_eq_ok built
  have gives := Components.gives_of_normalize done
  exact ⟨gives.isNormal, normal.keeps gives⟩

end Url

end Scep
