import Scep.Proofs.Query.Length

/-!
Several values set one after another.

Every name that is set has the value that it was given and no other, and the
values of all other names are what they were.  The names of before come first, in
the order in which they were given, and the pairs of a name stand together.
-/

namespace Scep.Query

variable {query pairs : Query} {name value : String}

/-! ### The order of names -/

private theorem names_flatMap {list : List String} (nodup : list.Nodup) (pairs : String → Query)
    (own : ∀ item ∈ list, ∀ pair ∈ pairs item, pair.1 = item)
    (given : ∀ item ∈ list, pairs item ≠ []) : Query.names (list.flatMap pairs) = list := by
  induction list with
  | nil => rfl
  | cons first rest ih =>
      obtain ⟨fresh, restNodup⟩ := List.nodup_cons.mp nodup
      have later := ih restNodup (fun item member => own item (List.mem_cons_of_mem first member))
        fun item member => given item (List.mem_cons_of_mem first member)
      have ownFirst := own first List.mem_cons_self
      cases block : pairs first with
      | nil => exact absurd block (given first List.mem_cons_self)
      | cons pair others =>
          rw [block] at ownFirst
          -- The rest of the block adds no name, and the blocks after it keep theirs.
          have none : (others.map Prod.fst).filter (fun item => !item == first) = [] := by
            rw [List.filter_eq_nil_iff]
            intro item member
            obtain ⟨other, placed, rfl⟩ := List.mem_map.mp member
            rw [ownFirst other (List.mem_cons_of_mem pair placed), beq_self_eq_true]
            exact Bool.false_ne_true
          have all : ((rest.flatMap pairs).map Prod.fst).filter (fun item => !item == first) =
              (rest.flatMap pairs).map Prod.fst := by
            rw [List.filter_eq_self]
            intro item member
            obtain ⟨other, placed, rfl⟩ := List.mem_map.mp member
            obtain ⟨item, there, within⟩ := List.mem_flatMap.mp placed
            rw [own item (List.mem_cons_of_mem first there) other within, Bool.not_eq_true',
              beq_eq_false_iff_ne]
            rintro rfl
            exact fresh there
          rw [List.flatMap_cons, block, names, List.cons_append, List.map_cons,
            List.eraseDups_cons, ownFirst pair List.mem_cons_self, List.map_append,
            List.filter_append, none, all, List.nil_append]
          exact congrArg (first :: ·) later

def extended (names : List String) (name : String) : List String :=
  if name ∈ names then names else names ++ [name]

private theorem mem_extended {names : List String} {item : String} :
    item ∈ extended names name ↔ item ∈ names ∨ item = name := by
  unfold extended
  by_cases known : name ∈ names
  · rw [if_pos known]
    constructor
    · exact Or.inl
    · rintro (there | rfl)
      · exact there
      · exact known
  · rw [if_neg known, List.mem_append, List.mem_singleton]

private theorem nodup_extended {names : List String} (nodup : names.Nodup) (name : String) :
    (extended names name).Nodup := by
  unfold extended
  by_cases known : name ∈ names
  · rwa [if_pos known]
  · rw [if_neg known, List.nodup_append]
    refine ⟨nodup, List.nodup_singleton name, ?_⟩
    intro item there other own same
    rw [List.mem_singleton.mp own] at same
    exact known (same ▸ there)

private theorem set_eq_flatMap (query : Query) (name value : String) :
    query.set name value = (extended query.names name).flatMap fun item =>
      if item == name then [(name, value)] else query.pairsOf item := by
  unfold set extended
  by_cases known : name ∈ query.names
  · simp only [List.contains_iff_mem.mpr known, if_true, if_pos known]
  · have unknown : query.names.contains name = false := by
      rw [← Bool.not_eq_true, List.contains_iff_mem]
      exact known
    simp only [unknown, Bool.false_eq_true, if_false, if_neg known, List.flatMap_append,
      List.flatMap_singleton, beq_self_eq_true, if_true]

private theorem names_set (query : Query) (name value : String) :
    (query.set name value).names = extended query.names name := by
  rw [set_eq_flatMap]
  apply names_flatMap (nodup_extended (nodup_names query) name)
  · intro item _ pair member
    by_cases same : item = name
    · simp only [same, beq_self_eq_true, if_true, List.mem_singleton] at member
      rw [member, same]
    · simp only [beq_iff_eq, same, if_false] at member
      exact eq_of_beq (List.mem_filter.mp member).2
  · intro item member
    by_cases same : item = name
    · simp only [same, beq_self_eq_true, if_true]
      exact List.cons_ne_nil _ _
    · simp only [beq_iff_eq, same, if_false]
      obtain ⟨pair, placed, named⟩ := mem_names.mp ((mem_extended.mp member).resolve_right same)
      exact List.ne_nil_of_mem (List.mem_filter.mpr ⟨placed, beq_iff_eq.mpr named⟩)

private theorem grouped_set (query : Query) (name value : String) :
    (query.set name value).grouped = query.set name value := by
  rw [grouped, names_set]
  conv_rhs => rw [set_eq_flatMap]
  apply List.flatMap_congr
  intro item _
  by_cases same : item = name
  · simp only [same, beq_self_eq_true, if_true, pairsOf_set_self]
  · simp only [beq_iff_eq, same, if_false, pairsOf_set_of_ne query value same]

/-! ### Several values -/

def setAll (query pairs : Query) : Query :=
  pairs.foldl (fun query pair => query.set pair.1 pair.2) query

theorem pairsOf_setAll_of_not_mem (query : Query) (other : name ∉ pairs.map Prod.fst) :
    (query.setAll pairs).pairsOf name = query.pairsOf name := by
  induction pairs generalizing query with
  | nil => rfl
  | cons pair rest ih =>
      rw [List.map_cons, List.mem_cons, not_or] at other
      change ((query.set pair.1 pair.2).setAll rest).pairsOf name = _
      rw [ih _ other.2, pairsOf_set_of_ne query pair.2 other.1]

theorem pairsOf_setAll_of_mem (query : Query) (nodup : (pairs.map Prod.fst).Nodup)
    (own : (name, value) ∈ pairs) : (query.setAll pairs).pairsOf name = [(name, value)] := by
  induction pairs generalizing query with
  | nil => cases own
  | cons pair rest ih =>
      obtain ⟨fresh, restNodup⟩ := List.nodup_cons.mp nodup
      change ((query.set pair.1 pair.2).setAll rest).pairsOf name = _
      rcases List.mem_cons.mp own with first | later
      · subst first
        rw [pairsOf_setAll_of_not_mem _ fresh, pairsOf_set_self]
      · exact ih _ restNodup later

theorem names_setAll (query : Query) (nodup : (pairs.map Prod.fst).Nodup) :
    (query.setAll pairs).names =
      query.names ++ (pairs.map Prod.fst).filter fun name => name ∉ query.names := by
  induction pairs generalizing query with
  | nil => exact (List.append_nil _).symm
  | cons pair rest ih =>
      obtain ⟨fresh, restNodup⟩ := List.nodup_cons.mp nodup
      change ((query.set pair.1 pair.2).setAll rest).names = _
      rw [ih _ restNodup, names_set, List.map_cons]
      by_cases known : pair.1 ∈ query.names
      · rw [extended, if_pos known, List.filter_cons_of_neg (by simpa using known)]
      · have others : ∀ name ∈ rest.map Prod.fst, decide (name ∉ query.names ++ [pair.1]) =
            decide (name ∉ query.names) := by
          intro name later
          have different : name ≠ pair.1 := fun same => fresh (same ▸ later)
          simp only [List.mem_append, List.mem_singleton, different, or_false]
        rw [extended, if_neg known, List.filter_congr others,
          List.filter_cons_of_pos (by simpa using known), List.append_assoc,
          List.singleton_append]

theorem grouped_setAll (query : Query) (given : pairs ≠ []) :
    (query.setAll pairs).grouped = query.setAll pairs := by
  induction pairs generalizing query with
  | nil => exact absurd rfl given
  | cons pair rest ih =>
      change ((query.set pair.1 pair.2).setAll rest).grouped = (query.set pair.1 pair.2).setAll rest
      cases rest with
      | nil => exact grouped_set query pair.1 pair.2
      | cons next others => exact ih _ (List.cons_ne_nil next others)

theorem perm_setAll (query : Query) (nodup : (pairs.map Prod.fst).Nodup) :
    (query.setAll pairs).Perm
      (query.filter (fun pair => pair.1 ∉ pairs.map Prod.fst) ++ pairs) := by
  induction pairs generalizing query with
  | nil =>
      rw [List.append_nil]
      exact List.Perm.of_eq (List.filter_eq_self.mpr fun pair _ => by simp).symm
  | cons pair rest ih =>
      obtain ⟨fresh, restNodup⟩ := List.nodup_cons.mp nodup
      have kept : (query.without pair.1 ++ [pair]).filter (fun other => other.1 ∉ rest.map Prod.fst) =
          query.filter (fun other => other.1 ∉ (pair :: rest).map Prod.fst) ++ [pair] := by
        have own : [pair].filter (fun other => other.1 ∉ rest.map Prod.fst) = [pair] :=
          List.filter_eq_self.mpr fun other same => by
            rw [List.mem_singleton.mp same]
            exact decide_eq_true fresh
        rw [List.filter_append, own, without, List.filter_filter]
        congr 2
        funext other
        rw [bne, beq_eq_decide, ← decide_not, ← Bool.decide_and]
        simp only [List.map_cons, List.mem_cons, not_or, and_comm]
      have set := (perm_set query pair.1 pair.2).filter fun other => other.1 ∉ rest.map Prod.fst
      rw [kept] at set
      refine (ih (query.set pair.1 pair.2) restNodup).trans ?_
      refine (set.append_right rest).trans ?_
      rw [List.append_assoc, List.singleton_append]

end Scep.Query
