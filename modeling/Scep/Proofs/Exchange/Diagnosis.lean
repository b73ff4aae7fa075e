import Scep.Proofs.Exchange.Receipt
import Scep.Proofs.Text.Truncation

/-!
Texts as the diagnosis of a failed response.

A responder says in words what went wrong, and the client keeps the start of it.
How the octets of the text were cut into pieces does not show, and of the cut that
the limit makes no more shows than one replacement at the end.
-/

namespace Scep.Delivery

open Text.Utf8

variable {delivery : Delivery} {text : String}

/-- A failed response with a text for a body is reported with the whole text if it
keeps the limit, and otherwise with the characters for which there is room, and one
replacement if the limit falls inside the next one. -/
theorem receive_diagnosis (failed : 400 ≤ delivery.status) (plain : delivery.headers.IsPlain)
    (unbroken : delivery.fault = none) (carries : delivery.pieces.flatten = encode text.toList)
    (operation : Option Operation) :
    let size := (encode text.toList).length
    ∃ body : String,
      (delivery.receive operation).outcome =
        .error ⟨.failure (.httpStatus delivery.status delivery.phrase body), none⟩ ∧
      (size ≤ 4096 → body = text) ∧
      (4096 < size → ∃ kept, IsLongest 4096 text.toList kept ∧
        (IsBoundary text.toList 4096 → body.toList = kept) ∧
        (¬IsBoundary text.toList 4096 → body.toList = kept ++ [replacement])) ∧
      body.length ≤ 4096 ∧
      ∀ place, body.toList[place]? = some replacement →
        text.toList[place]? = some replacement ∨
          (place + 1 = body.length ∧ 4096 < size ∧ ¬IsBoundary text.toList 4096) := by
  intro size
  have truncated := truncated_decodeLossy_take text.toList 4096
  have outcome : (delivery.receive operation).outcome =
      .error ⟨.failure (.httpStatus delivery.status delivery.phrase
        (String.ofList (decodeLossy ((encode text.toList).take 4096)))), none⟩ := by
    rw [receive_plain plain, outcomeOf, if_pos failed, unbroken, carries]
    rfl
  generalize decodeLossy ((encode text.toList).take 4096) = read at truncated outcome
  refine ⟨String.ofList read, outcome, fun short => ?_, fun beyond => ?_, ?_, ?_⟩
  · rw [truncated.eq_of_short short, String.ofList_toList]
  · rw [String.toList_ofList]
    cases truncated with
    | whole first ends =>
        have boundary := ends.resolve_left (Nat.not_le.mpr beyond)
        exact ⟨read, first, fun _ => rfl, fun inside => absurd boundary inside⟩
    | cut first _ inside =>
        exact ⟨_, first, fun boundary => absurd boundary inside, fun _ => rfl⟩
  · rw [String.length_ofList]
    exact truncated.length_le
  · intro place found
    rw [String.toList_ofList] at found
    rw [String.length_ofList]
    exact truncated.own_or_last found

/-- A text whose last character begins with the last octet that is kept, and comes
in three pieces. -/
theorem receive_diagnosis_cut :
    let before := List.replicate 4095 'a'
    let delivery : Delivery :=
      { status := 502, pieces := [encode before, [0xC3], [0xA9]] }
    delivery.headers.IsPlain ∧
      delivery.pieces.flatten = encode (String.ofList (before ++ ['é'])).toList ∧
      (delivery.receive none).outcome =
        .error ⟨.failure (.httpStatus 502 delivery.phrase
          (String.ofList (before ++ [replacement]))), none⟩ := by
  intro before delivery
  have plain : delivery.headers.IsPlain := fun _ member => absurd member List.not_mem_nil
  have size : (encode before).length = 4095 := by
    have one : (String.utf8EncodeChar 'a').length = 1 := rfl
    simp only [before, encode, List.length_flatMap, List.map_replicate, List.sum_replicate_nat, one]
  have carries : delivery.pieces.flatten = encode (String.ofList (before ++ ['é'])).toList := by
    rw [String.toList_ofList, encode_append]
    rfl
  have long : (encode (before ++ ['é'])).length = 4097 := by
    rw [encode_append, List.length_append, size]
    rfl
  have first : IsLongest 4096 (before ++ ['é']) before :=
    .of_split (by omega) (by omega)
  have inside : ¬IsBoundary (before ++ ['é']) 4096 := by
    rw [first.isBoundary_iff]
    omega
  obtain ⟨body, outcome, _, cut, _⟩ :=
    receive_diagnosis (show 400 ≤ delivery.status by decide) plain rfl carries none
  rw [String.toList_ofList] at cut
  obtain ⟨kept, longest, _, ended⟩ := cut (by omega)
  obtain rfl := longest.unique first
  refine ⟨plain, carries, ?_⟩
  rw [outcome, ← String.ofList_toList (s := body), ended inside]

end Scep.Delivery
