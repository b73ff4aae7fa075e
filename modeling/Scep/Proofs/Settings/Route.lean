import Mathlib.Data.List.DropRight
import Scep.Proofs.Settings.Capabilities

/-!
Routes that settings accept.

A route is what is left of an accepted text without the slashes at its end.  It is
accepted again as it is, so it does not matter how often settings are checked.
-/

namespace Scep.Settings

/-- What the routes of a responder are put under: an absolute path that ends in no
slash. -/
structure IsRoute (path : List Char) : Prop where
  absolute : path.head? = some '/'
  unfinished : path.getLast? ≠ some '/'

namespace Check

variable {given route : String} {path : List Char}

/-! ### Slashes at the end -/

private theorem exists_slashes (path : List Char) :
    ∃ count, path = path.rdropWhile (· == '/') ++ List.replicate count '/' := by
  have slashes : path.rtakeWhile (· == '/') =
      List.replicate (path.rtakeWhile (· == '/')).length '/' :=
    List.eq_replicate_of_mem fun _ member =>
      eq_of_beq (List.mem_rtakeWhile_imp (p := (· == '/')) member)
  refine ⟨(path.rtakeWhile (· == '/')).length, ?_⟩
  rw [← slashes, List.rdropWhile_append_rtakeWhile]

private theorem getLast?_rdropWhile_slashes (path : List Char) :
    (path.rdropWhile (· == '/')).getLast? ≠ some '/' := by
  intro last
  have more : path.rdropWhile (· == '/') ≠ [] := by
    intro empty
    rw [empty] at last
    cases last
  rw [List.getLast?_eq_some_getLast more] at last
  exact List.rdropWhile_last_not _ _ more (beq_iff_eq.mpr (Option.some.inj last))

private theorem rdropWhile_slashes_append (unfinished : path.getLast? ≠ some '/') (count : Nat) :
    (path ++ List.replicate count '/').rdropWhile (· == '/') = path := by
  induction count with
  | zero =>
      rw [List.replicate_zero, List.append_nil, List.rdropWhile_eq_self_iff]
      intro more slash
      rw [List.getLast?_eq_some_getLast more, eq_of_beq slash] at unfinished
      exact unfinished rfl
  | succ count ih =>
      rw [List.replicate_succ', ← List.append_assoc, List.rdropWhile_concat_pos _ _ _ (by rfl), ih]

/-! ### Accepted texts -/

/-- A text is accepted if it is a route and slashes after it. -/
theorem route_eq_fine_iff : Check.route (.text given) = .fine route ↔
    IsRoute route.toList ∧ ∃ count, given.toList = route.toList ++ List.replicate count '/' := by
  have checked : Check.route (.text given) =
      if (given.toList.rdropWhile (· == '/')).head? = some '/' then
        .fine (String.ofList (given.toList.rdropWhile (· == '/')))
      else .refuse (.badRoute given) := rfl
  rw [checked]
  constructor
  · intro fine
    split at fine
    · rename_i absolute
      cases fine
      rw [String.toList_ofList]
      exact ⟨⟨absolute, getLast?_rdropWhile_slashes _⟩, exists_slashes _⟩
    · cases fine
  · rintro ⟨isRoute, count, written⟩
    rw [written, rdropWhile_slashes_append isRoute.unfinished, if_pos isRoute.absolute,
      String.ofList_toList]

theorem route_of_isRoute (isRoute : IsRoute route.toList) :
    Check.route (.text route) = .fine route :=
  route_eq_fine_iff.mpr ⟨isRoute, 0, (List.append_nil _).symm⟩

theorem exists_route_iff : (∃ route, Check.route (.text given) = .fine route) ↔
    given.toList.head? = some '/' ∧ ∃ char ∈ given.toList, char ≠ '/' := by
  constructor
  · rintro ⟨route, fine⟩
    obtain ⟨isRoute, count, written⟩ := route_eq_fine_iff.mp fine
    have more : route.toList ≠ [] := by
      intro empty
      have absolute := isRoute.absolute
      rw [empty] at absolute
      cases absolute
    have last := List.getLast_mem more
    refine ⟨?_, route.toList.getLast more, ?_, fun slash => ?_⟩
    · rw [written, List.head?_append_of_ne_nil _ more, isRoute.absolute]
    · rw [written]
      exact List.mem_append_left _ last
    · exact isRoute.unfinished ((List.getLast?_eq_some_getLast more).trans (congrArg some slash))
  · rintro ⟨absolute, char, member, other⟩
    obtain ⟨count, written⟩ := exists_slashes given.toList
    have more : given.toList.rdropWhile (· == '/') ≠ [] := by
      intro empty
      exact other (eq_of_beq (List.rdropWhile_eq_nil_iff.mp empty char member))
    have front : (given.toList.rdropWhile (· == '/')).head? = some '/' := by
      rw [written, List.head?_append_of_ne_nil _ more] at absolute
      exact absolute
    refine ⟨String.ofList (given.toList.rdropWhile (· == '/')), route_eq_fine_iff.mpr ?_⟩
    rw [String.toList_ofList]
    exact ⟨⟨front, getLast?_rdropWhile_slashes _⟩, count, written⟩

end Check

theorem route_of_ofValue {entries : List (Value × Value)} {server : Server} {given : String}
    (accepted : Server.ofValue (.table entries) = .fine server)
    (named : Value.lookup entries "path" = some (.text given)) :
    Check.route (.text given) = .fine server.path := by
  obtain ⟨withThree, tls, three, _, rfl⟩ := Checked.seq_eq_fine accepted
  obtain ⟨withTwo, path, two, checked, rfl⟩ := Checked.seq_eq_fine three
  obtain ⟨withOne, port, one, _, rfl⟩ := Checked.seq_eq_fine two
  obtain ⟨make, host, made, _, rfl⟩ := Checked.seq_eq_fine one
  cases made
  rw [field, named] at checked
  change (Check.route (.text given)).under (.name "path") = .fine path at checked
  cases fine : Check.route (.text given) with
  | faulty findings =>
      rw [fine] at checked
      cases checked
  | fine route =>
      rw [fine] at checked
      exact checked

end Scep.Settings
