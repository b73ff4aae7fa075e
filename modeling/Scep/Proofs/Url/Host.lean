import Scep.Client.Basic
import Scep.Proofs.Idn.Shown
import Scep.Proofs.Url.Scheme

/-!
The host of a server address as it is shown.

Only a host that starts with an encoded label is decoded.  A numeric host starts
otherwise, and a host that is not plain was encoded while it was read, so it can be
shown.  What is left are the hosts that were written in the encoded form, of which
nothing was checked before they are decoded.
-/

namespace Scep.Url

variable {text host normal : List Char} {url : Url}

/-! ### Numeric hosts -/

namespace Address

private theorem isGroup_of_areGroups {piece : List Char} {pieces : List (List Char)}
    (given : piece ≠ []) (groups : areGroups (piece :: pieces) = true) : isGroup piece = true := by
  have front (count : Nat) : (piece :: pieces).take (1 + count) = piece :: pieces.take count := by
    rw [Nat.add_comm, List.take_succ_cons]
  have filled : (some piece == some []) = false :=
    beq_eq_false_iff_ne.mpr fun same => given (Option.some.inj same)
  unfold areGroups at groups
  dsimp only at groups
  split at groups
  · rw [Bool.and_eq_true] at groups
    exact List.all_eq_true.mp groups.2 piece List.mem_cons_self
  · simp only [front, List.head?_cons, filled, Bool.false_eq_true, if_false, List.cons_append,
      List.all_cons, Bool.and_eq_true] at groups
    exact groups.2.1
  · cases groups

private theorem first_of_isVersion6 {first : Char} {rest : List Char}
    (numeric : isVersion6 (first :: rest) = true) :
    (Text.hexValue? first).isSome = true ∨ first = ':' := by
  by_cases colon : first = ':'
  · exact Or.inr colon
  · left
    unfold isVersion6 at numeric
    dsimp only at numeric
    by_cases zoned : first = '%'
    · subst zoned
      rw [List.takeWhile_cons_of_neg (by decide)] at numeric
      simp [Text.splitOn] at numeric
    · rw [List.takeWhile_cons_of_pos (by simpa using zoned)] at numeric
      obtain ⟨piece, pieces, split⟩ := Text.splitOn_cons_of_ne colon (rest.takeWhile (· ≠ '%'))
      simp only [split, Bool.and_eq_true, decide_eq_true_eq, List.length_cons] at numeric
      obtain ⟨⟨⟨⟨_, several⟩, _⟩, _⟩, groups⟩ := numeric
      have others : pieces ≠ [] := by
        rintro rfl
        exact absurd several (by decide)
      have own : isGroup (first :: piece) = true := by
        split at groups
        · rw [List.dropLast_cons_of_ne_nil others, List.cons_append] at groups
          exact isGroup_of_areGroups (List.cons_ne_nil _ _) groups
        · exact isGroup_of_areGroups (List.cons_ne_nil _ _) groups
      simp only [isGroup, List.all_cons, Bool.and_eq_true] at own
      exact own.2.1

end Address

/-! ### Hosts that are decoded -/

private theorem shown_of_marked (done : normalHost host = .ok normal)
    (marked : Idn.encodedMark <+: normal) :
    host.all Text.isAscii = true ∨ ∃ shown, Idn.shownName normal = .ok shown := by
  obtain ⟨rest, rfl⟩ := marked
  have begins : Idn.encodedMark ++ rest = 'x' :: 'n' :: '-' :: '-' :: rest := rfl
  rw [begins] at done ⊢
  unfold normalHost at done
  split at done
  · cases done
  split at done
  · next numeric =>
      split at done
      · cases done
        rw [Address.looksLikeVersion4_of_not_isDigit (by decide)] at numeric
        cases numeric
      · cases done
  split at done
  · dsimp only at done
    split at done
    · next numeric =>
        rw [Except.ok.inj done] at numeric
        rcases Address.first_of_isVersion6 numeric with digit | colon
        · exact absurd digit (by decide)
        · exact absurd colon (by decide)
    · cases done
  split at done
  · next plain => exact Or.inl plain
  · split at done
    · next name encoded =>
        cases done
        exact Or.inr (Idn.exists_shownName encoded)
    · cases done

/-- The host of an address is written in ASCII and starts with an encoded label,
and as a whole it encodes no name. -/
structure Misencoded (text : List Char) (flaw : Idn.Flaw) : Prop where
  plain : (writtenHost text).all Text.isAscii = true
  read : ∃ url, parse text = .ok url ∧ Idn.encodedMark <+: url.host ∧
    Idn.shownName url.host = .error flaw

theorem misencoded_iff {flaw : Idn.Flaw} (read : parse text = .ok url) :
    Misencoded text flaw ↔ url.shownHost = .error flaw := by
  unfold shownHost
  constructor
  · rintro ⟨_, other, same, marked, hidden⟩
    cases read.symm.trans same
    rw [if_pos (List.isPrefixOf_iff_prefix.mpr marked), hidden]
  · intro hidden
    by_cases begins : Idn.encodedMark.isPrefixOf url.host = true
    · rw [if_pos begins] at hidden
      have marked := List.isPrefixOf_iff_prefix.mp begins
      refine ⟨?_, url, read, marked, hidden⟩
      rcases shown_of_marked (normalHost_writtenHost read) marked with plain | ⟨shown, known⟩
      · exact plain
      · rw [hidden] at known
        cases known
    · rw [if_neg begins] at hidden
      cases hidden

/-! ### Server addresses -/

/-- What is documented of reading a server address: an address with a host to be
shown, or the report of why the text is none. -/
inductive Settled (text : List Char) : Except Raised Url → Prop where
  | read (url : Url) (first : Char) (rest : List Char) (shown : url.shownHost = .ok (first :: rest)) :
      Settled text (.ok url)
  | refused (reason : String) (origin : Option Fault) :
      Settled text (.error ⟨.failure (.invalidServerUrl (String.ofList (withScheme text)) reason),
        origin⟩)

private theorem ofServer_of_hidden {flaw : Idn.Flaw} (read : parse (withScheme text) = .ok url)
    (hidden : url.shownHost = .error flaw) : ofServer text = .error ⟨.hostName flaw, none⟩ := by
  simp only [ofServer, read, hidden]

/-- Reading a server address comes to what is documented for every text but those
of which the host is written in an encoded form that encodes no name.  There the
flaw of the encoding is left as it is, and no client comes about. -/
theorem ofServer_settled_iff (text : List Char) :
    (Settled text (ofServer text) ↔ ∀ flaw, ¬Misencoded (withScheme text) flaw) ∧
      (∀ flaw, Misencoded (withScheme text) flaw →
        ofServer text = .error ⟨.hostName flaw, none⟩) ∧
      ∀ deadline, Client.ofAddress (String.ofList text) deadline =
        (ofServer text).map fun url => ⟨url, deadline⟩ := by
  have escapes : ∀ flaw, Misencoded (withScheme text) flaw →
      ofServer text = .error ⟨.hostName flaw, none⟩ := by
    intro flaw misencoded
    obtain ⟨url, read, _⟩ := misencoded.read
    exact ofServer_of_hidden read ((misencoded_iff read).mp misencoded)
  refine ⟨⟨fun settled flaw misencoded => ?_, fun encoded => ?_⟩, escapes, fun deadline => ?_⟩
  · rw [escapes flaw misencoded] at settled
    cases settled
  · cases read : parse (withScheme text) with
    | error flaw =>
        rw [ofServer_of_flaw read]
        exact .refused _ _
    | ok url =>
        cases shown : url.shownHost with
        | error flaw => exact absurd ((misencoded_iff read).mpr shown) (encoded flaw)
        | ok host =>
            simp only [ofServer, read, shown]
            cases host with
            | nil => exact .refused _ _
            | cons first rest => exact .read url first rest shown
  · rw [Client.ofAddress, String.toList_ofList]
    rfl

/-- Nothing behind the mark of an encoded label. -/
theorem ofServer_unsettled :
    ofServer "http://xn--/".toList = .error ⟨.hostName .nothingEncoded, none⟩ ∧
      ¬Settled "http://xn--/".toList (ofServer "http://xn--/".toList) := by
  have clean : control? "http://xn--/".toList = none := by cbv
  have parts : Components.split "http://xn--/".toList =
      ⟨"http".toList, "xn--".toList, ['/'], none, none⟩ := by
    cbv
  have authority : splitAuthority "xn--".toList = ([], "xn--".toList, []) := by cbv
  have host : normalHost "xn--".toList = .ok "xn--".toList :=
    (normalHost_of_name (by decide) (by decide) (by decide)).trans (by decide)
  have read : parse (withScheme "http://xn--/".toList) =
      .ok { scheme := "http".toList, host := "xn--".toList, path := ['/'] } := by
    rw [show withScheme "http://xn--/".toList = "http://xn--/".toList from by decide,
      parse_of_clean (by decide) clean, parts]
    unfold Components.normalize
    simp only [authority, host]
    cbv
  have hidden : ({ scheme := "http".toList, host := "xn--".toList, path := ['/'] } : Url).shownHost =
      .error .nothingEncoded := by
    cbv
  have escaped := ofServer_of_hidden read hidden
  refine ⟨escaped, fun settled => ?_⟩
  rw [escaped] at settled
  cases settled

end Scep.Url
