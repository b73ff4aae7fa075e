import Mathlib.Data.List.Forall2

/-!
Steps one after the other, of which each may fail.

Of the items of a list, either all get a result, or there is a first one that
fails, and what is after it is not looked at.
-/

namespace Scep

theorem bind_eq_ok {ε α β : Type} {first : Except ε α} {next : α → Except ε β} {result : β}
    (done : (first >>= next) = .ok result) :
    ∃ value, first = .ok value ∧ next value = .ok result := by
  cases first with
  | error flaw => cases done
  | ok value => exact ⟨value, rfl, done⟩

variable {α β ε : Type} {step : α → Except ε β}

theorem mapM_eq_ok_iff {items : List α} {results : List β} :
    items.mapM step = .ok results ↔
      List.Forall₂ (fun item result => step item = .ok result) items results := by
  induction items generalizing results with
  | nil =>
      rw [List.forall₂_nil_left_iff]
      exact ⟨fun done => (Except.ok.inj done).symm, fun same => congrArg Except.ok same.symm⟩
  | cons item rest ih =>
      rw [List.mapM_cons, List.forall₂_cons_left_iff]
      constructor
      · intro done
        obtain ⟨first, own, done⟩ := bind_eq_ok done
        obtain ⟨others, after, done⟩ := bind_eq_ok done
        exact ⟨first, others, own, ih.mp after, (Except.ok.inj done).symm⟩
      · rintro ⟨first, others, own, after, rfl⟩
        rw [own, ih.mpr after]
        rfl

theorem mapM_eq_error {before after : List α} {last : α} {flaw : ε}
    (earlier : ∀ item ∈ before, ∃ result, step item = .ok result) (failed : step last = .error flaw) :
    (before ++ last :: after).mapM step = .error flaw := by
  induction before with
  | nil =>
      rw [List.nil_append, List.mapM_cons, failed]
      rfl
  | cons item rest ih =>
      obtain ⟨result, own⟩ := earlier item List.mem_cons_self
      rw [List.cons_append, List.mapM_cons, own,
        ih fun other member => earlier other (List.mem_cons_of_mem item member)]
      rfl

theorem mapM_cases (step : α → Except ε β) (items : List α) :
    (∃ results, items.mapM step = .ok results) ∨
      ∃ before last after flaw, items = before ++ last :: after ∧
        (∀ item ∈ before, ∃ result, step item = .ok result) ∧ step last = .error flaw := by
  induction items with
  | nil => exact Or.inl ⟨[], rfl⟩
  | cons item rest ih =>
      cases own : step item with
      | error flaw =>
          exact Or.inr ⟨[], item, rest, flaw, rfl, fun _ member => absurd member List.not_mem_nil, own⟩
      | ok result =>
          rcases ih with ⟨results, after⟩ | ⟨before, last, after, flaw, split, earlier, failed⟩
          · refine Or.inl ⟨result :: results, ?_⟩
            rw [List.mapM_cons, own, after]
            rfl
          · refine Or.inr ⟨item :: before, last, after, flaw, by rw [split, List.cons_append], ?_,
              failed⟩
            exact List.forall_mem_cons.mpr ⟨⟨result, own⟩, earlier⟩

theorem exists_mapM_eq_ok {items : List α} (each : ∀ item ∈ items, ∃ result, step item = .ok result) :
    ∃ results, items.mapM step = .ok results := by
  rcases mapM_cases step items with done | ⟨before, last, after, flaw, split, _, failed⟩
  · exact done
  · obtain ⟨result, own⟩ := each last (split ▸ List.mem_append_right before List.mem_cons_self)
    rw [failed] at own
    cases own

theorem exists_of_mem_mapM {items : List α} {results : List β} {result : β}
    (done : items.mapM step = .ok results) (member : result ∈ results) :
    ∃ item ∈ items, step item = .ok result := by
  have each := mapM_eq_ok_iff.mp done
  clear done
  induction each with
  | nil => cases member
  | cons own _ ih =>
      rcases List.mem_cons.mp member with rfl | later
      · exact ⟨_, List.mem_cons_self, own⟩
      · obtain ⟨item, among, made⟩ := ih later
        exact ⟨item, List.mem_cons_of_mem _ among, made⟩

end Scep
