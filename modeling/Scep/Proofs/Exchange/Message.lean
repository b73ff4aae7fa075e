import Scep.Exchange.Message
import Scep.Proofs.Base64.Grammar
import Scep.Proofs.Query.Values

/-!
What becomes of the text in which a `GET` request carries its message.

The text is read if it keeps to the grammar.  Text that does not is refused as an
undecodable message only if it is ASCII; all other text is stopped before any of
it is read, by a plain error that nobody takes for a failure of the protocol.
-/

namespace Scep.Message

variable {value : String} {octets : Octets}

/-! ### Texts within ASCII -/

def IsAscii (value : String) : Prop := ∀ char ∈ value.toList, char.toNat ≤ 0x7F

instance (value : String) : Decidable (IsAscii value) :=
  inferInstanceAs (Decidable (∀ char ∈ value.toList, char.toNat ≤ 0x7F))

theorem any_foreign_iff :
    (value.toList.any fun char => decide (0x7F < char.toNat)) = true ↔ ¬IsAscii value := by
  rw [List.any_eq_true]
  constructor
  · rintro ⟨char, member, foreign⟩ ascii
    have large := of_decide_eq_true foreign
    have small := ascii char member
    omega
  · intro foreign
    unfold IsAscii at foreign
    push Not at foreign
    obtain ⟨char, member, large⟩ := foreign
    exact ⟨char, member, decide_eq_true large⟩

theorem ofQueryValue_foreign (foreign : ¬IsAscii value) :
    ofQueryValue value =
      .error ⟨.plain .value "string argument should contain only ASCII characters", none⟩ :=
  if_pos (any_foreign_iff.mpr foreign)

theorem not_isAscii_accented : ¬IsAscii "é" := by
  intro ascii
  have member : 'é' ∈ "é".toList := by
    rw [String.toList_ofList]
    exact List.mem_singleton_self _
  exact absurd (ascii 'é' member) (by decide)

private theorem ofQueryValue_ascii (ascii : IsAscii value) :
    ofQueryValue value =
      match Base64.decode value.toList with
      | .ok octets => .ok octets
      | .error flaw => .error ⟨.failure (.invalidMessage flaw.message), some (.base64 flaw)⟩ :=
  if_neg fun foreign => any_foreign_iff.mp foreign ascii

private theorem isAscii_of_decode (accepted : Base64.decode value.toList = .ok octets) :
    IsAscii value := by
  obtain ⟨data, values, pads, written, reads, _⟩ := (Base64.decode_eq_ok_iff _ _).mp accepted
  intro char member
  rw [written] at member
  rcases List.mem_append.mp member with inData | inPadding
  · obtain ⟨_, known⟩ := Base64.exists_value_of_mem reads inData
    exact Nat.le_of_lt_succ (Base64.toNat_lt_of_value? known)
  · rw [List.eq_of_mem_replicate inPadding]
    decide

/-! ### What a value is refused as -/

def IsMalformed (raised : Raised) : Prop :=
  ∃ failure, raised.fault = .failure failure ∧ failure.family = .malformedRequest

theorem not_isMalformed_foreign {text : String} {origin : Option Fault} :
    ¬IsMalformed ⟨.plain .value text, origin⟩ := by
  rintro ⟨failure, same, _⟩
  cases same

theorem invalidMessage_of_ofQueryValue {raised : Raised} (ascii : IsAscii value)
    (refused : ofQueryValue value = .error raised) :
    ∃ flaw : Base64.Flaw,
      raised = ⟨.failure (.invalidMessage flaw.message), some (.base64 flaw)⟩ := by
  rw [ofQueryValue_ascii ascii] at refused
  cases read : Base64.decode value.toList with
  | ok found =>
      rw [read] at refused
      cases refused
  | error flaw =>
      rw [read] at refused
      exact ⟨flaw, (Except.error.inj refused).symm⟩

/-! ### What a value is read as -/

theorem ofQueryValue_eq_ok_iff :
    ofQueryValue value = .ok octets ↔ Base64.decode value.toList = .ok octets := by
  by_cases ascii : IsAscii value
  · rw [ofQueryValue_ascii ascii]
    cases Base64.decode value.toList with
    | ok found => simp only [Except.ok.injEq]
    | error flaw =>
        constructor
        · intro accepted
          cases accepted
        · intro accepted
          cases accepted
  · rw [ofQueryValue_foreign ascii]
    constructor
    · intro accepted
      cases accepted
    · intro accepted
      exact absurd (isAscii_of_decode accepted) ascii

theorem ofRequest_get (before : Query) (value : String) (body : Octets) :
    ofRequest Method.get.name (before ++ [("message", value)]) body = ofQueryValue value := by
  have last : Query.last? (before ++ [("message", value)]) "message" = some value := by
    rw [Query.last?_eq, Query.pairsOf_append, Query.pairsOf_singleton_self,
      List.getLast?_concat, Option.map_some]
  rw [ofRequest, last]
  rfl

/-- A letter outside of ASCII is neither a message nor a malformed one. -/
theorem ofRequest_get_foreign :
    ¬∀ value body, (∃ octets, ofRequest "GET" [("message", value)] body = .ok octets) ∨
      ∃ raised, ofRequest "GET" [("message", value)] body = .error raised ∧
        IsMalformed raised := by
  intro decided
  have refused : ofRequest "GET" [("message", "é")] [] =
      .error ⟨.plain .value "string argument should contain only ASCII characters", none⟩ :=
    (ofRequest_get [] "é" []).trans (ofQueryValue_foreign not_isAscii_accented)
  rcases decided "é" [] with ⟨octets, accepted⟩ | ⟨raised, malformed, counts⟩
  · rw [refused] at accepted
    cases accepted
  · rw [refused] at malformed
    cases malformed
    exact not_isMalformed_foreign counts

/-- A `GET` request has exactly the messages of the grammar: data in either
alphabet, or with spaces for plus signs, and so much padding as may follow it.
The octets are cut from the bits of the data, so every spelling of a message is
read as that message. -/
theorem ofRequest_get_eq_ok_iff (before : Query) (body : Octets) :
    (∀ value octets,
      ofRequest "GET" (before ++ [("message", value)]) body = .ok octets ↔
        ∃ data values pads, value.toList = data ++ List.replicate pads '=' ∧
          List.Forall₂ Base64.StandsFor data values ∧ Base64.IsPaddedBy data.length pads ∧
          Base64.Carries values octets) ∧
      ∀ message data pads,
        List.Forall₂ Base64.Respells data ((Base64.encode message).filter (· ≠ '=')) →
          pads ≤ (Base64.encode message).count '=' →
            ofRequest "GET" (before ++ [("message", String.ofList (data ++ List.replicate pads '='))])
              body = .ok message := by
  constructor
  · intro value octets
    rw [← Base64.decode_eq_ok_iff, ← ofQueryValue_eq_ok_iff]
    exact Eq.congr_left (ofRequest_get before value body)
  · intro message data pads respelled fewer
    have read := Base64.decode_respelled message respelled fewer
    refine (ofRequest_get before _ body).trans (ofQueryValue_eq_ok_iff.mpr ?_)
    rw [String.toList_ofList]
    exact read

/-- The written text is `-_8=`. -/
theorem ofRequest_get_spaced :
    ofRequest "GET" [("message", " /8")] [] = .ok [251, 255] := by
  have spelled : List.Forall₂ Base64.Respells [' ', '/', '8']
      ((Base64.encode [251, 255]).filter (· ≠ '=')) := by
    have written : (Base64.encode [251, 255]).filter (· ≠ '=') = ['-', '_', '8'] := by decide
    rw [written]
    exact .cons (Or.inr (Or.inl ⟨rfl, Or.inr rfl⟩))
      (.cons (Or.inr (Or.inr ⟨rfl, rfl⟩)) (.cons (Or.inl rfl) .nil))
  exact (ofRequest_get_eq_ok_iff [] []).2 [251, 255] [' ', '/', '8'] 0 spelled (by decide)

end Scep.Message
