import Scep.Proofs.Text.Search
import Scep.Settings.Model

/-!
Capability lists that settings accept.
-/

namespace Scep.Settings

variable {α β : Type}

theorem Checked.seq_eq_fine {first : Checked (α → β)} {second : Checked α} {value : β}
    (fine : first <*> second = .fine value) :
    ∃ make part, first = .fine make ∧ second = .fine part ∧ value = make part := by
  cases first with
  | faulty findings => cases second <;> cases fine
  | fine make =>
      cases second with
      | faulty findings => cases fine
      | fine part =>
          cases fine
          exact ⟨make, part, rfl, rfl, rfl⟩

private theorem field_eq_fine {entries : List (Value × Value)} {name : String} {default value : α}
    {check : Check α} (fine : field entries name default check = .fine value) :
    value = default ∨ ∃ given, check given = .fine value := by
  unfold field at fine
  cases found : Value.lookup entries name with
  | none =>
      rw [found] at fine
      cases fine
      exact Or.inl rfl
  | some given =>
      rw [found] at fine
      cases checked : check given with
      | faulty findings =>
          simp only [checked, Checked.under] at fine
          cases fine
      | fine other =>
          simp only [checked, Checked.under] at fine
          cases fine
          exact Or.inr ⟨given, checked⟩

private theorem Check.not_breaksList_of_capabilities {value : Value} {tokens : List String}
    (fine : Check.capabilities value = .fine tokens) :
    ∀ token ∈ tokens, Check.breaksList token = false := by
  unfold capabilities at fine
  cases listed : Check.list Check.text value with
  | faulty findings =>
      rw [listed] at fine
      cases fine
  | fine others =>
      rw [listed] at fine
      simp only [Checked.andThen] at fine
      cases found : others.find? Check.breaksList with
      | some token =>
          rw [found] at fine
          cases fine
      | none =>
          rw [found] at fine
          cases fine
          intro token member
          exact Bool.not_eq_true _ ▸ List.find?_eq_none.mp found token member

private theorem Check.isSolid_of_not_breaksList {token : String}
    (whole : Check.breaksList token = false) : Text.IsSolid token.toList := by
  obtain ⟨given, unbroken⟩ := Bool.or_eq_false_iff.mp whole
  refine ⟨?_, fun char member => ?_⟩
  · intro empty
    rw [String.toList_eq_nil_iff.mp empty] at given
    cases given
  · exact Bool.eq_false_iff.mpr (List.any_eq_false.mp unbroken char member)

private theorem capabilities_eq_of_ofValue {entries : List (Value × Value)} {settings : Settings}
    (accepted : ofValue (.table entries) = .fine settings) :
    field entries "capabilities" commonCapabilities Check.capabilities =
      .fine settings.capabilities := by
  obtain ⟨withFour, audit, four, _, rfl⟩ := Checked.seq_eq_fine accepted
  obtain ⟨withThree, tokens, three, checked, rfl⟩ := Checked.seq_eq_fine four
  obtain ⟨withTwo, ca, two, _, rfl⟩ := Checked.seq_eq_fine three
  obtain ⟨withOne, client, one, _, rfl⟩ := Checked.seq_eq_fine two
  obtain ⟨make, server, made, _, rfl⟩ := Checked.seq_eq_fine one
  cases made
  exact checked

theorem isSolid_of_ofValue {value : Value} {settings : Settings}
    (accepted : ofValue value = .fine settings) :
    ∀ token ∈ settings.capabilities, Text.IsSolid token.toList := by
  intro token member
  refine Check.isSolid_of_not_breaksList ?_
  cases value with
  | table entries =>
      rcases field_eq_fine (capabilities_eq_of_ofValue accepted) with usual | ⟨given, fine⟩
      · have common : ∀ token ∈ commonCapabilities, Check.breaksList token = false := by decide
        rw [usual] at member
        exact common token member
      · exact Check.not_breaksList_of_capabilities fine token member
  | null => cases accepted
  | flag value => cases accepted
  | whole value => cases accepted
  | real value => cases accepted
  | text value => cases accepted
  | other => cases accepted
  | list items => cases accepted

end Scep.Settings
