import Scep.Query

/-!
Values by their names.

Grouping the pairs of a query by name keeps the values of every name, and setting
a value changes those of one name only.
-/

namespace Scep.Query

variable {query : Query} {name other value : String}

/-! ### Names -/

theorem mem_names : name ∈ query.names ↔ ∃ pair ∈ query, pair.1 = name := by
  rw [names, List.mem_eraseDups, List.mem_map]

theorem pairsOf_of_not_mem_names (missing : name ∉ query.names) : query.pairsOf name = [] := by
  apply List.filter_eq_nil_iff.mpr
  intro pair member same
  exact missing (mem_names.mpr ⟨pair, member, eq_of_beq same⟩)

private theorem nodup_eraseDups : (list : List String) → list.eraseDups.Nodup
  | [] => List.nodup_nil
  | first :: rest => by
      have shorter : (rest.filter fun later => !later == first).length < rest.length + 1 :=
        Nat.lt_succ_of_le (List.length_filter_le _ rest)
      rw [List.eraseDups_cons, List.nodup_cons]
      constructor
      · intro member
        have kept := (List.mem_filter.mp (List.mem_eraseDups.mp member)).2
        rw [beq_self_eq_true] at kept
        cases kept
      · exact nodup_eraseDups _
termination_by list => list.length

theorem nodup_names (query : Query) : query.names.Nodup := nodup_eraseDups _

/-! ### Pairs of one name among those of all -/

private theorem pairsOf_pairsOf_self : (query.pairsOf name).pairsOf name = query.pairsOf name := by
  apply List.filter_eq_self.mpr
  intro pair member
  exact (List.mem_filter.mp member).2

private theorem pairsOf_pairsOf_of_ne (different : other ≠ name) :
    (query.pairsOf other).pairsOf name = [] := by
  apply List.filter_eq_nil_iff.mpr
  intro pair member same
  have first := eq_of_beq (List.mem_filter.mp member).2
  exact different (first.symm.trans (eq_of_beq same))

/-- Of several lists, one for each name, only one matters if the others have no
pair of the name asked for. -/
theorem pairsOf_flatMap {list : List String} (nodup : list.Nodup) (name : String)
    (pairs : String → Query)
    (elsewhere : ∀ item ∈ list, item ≠ name → (pairs item).pairsOf name = []) :
    Query.pairsOf (list.flatMap pairs) name =
      if name ∈ list then (pairs name).pairsOf name else [] := by
  induction list with
  | nil => rfl
  | cons first rest ih =>
      obtain ⟨fresh, restNodup⟩ := List.nodup_cons.mp nodup
      have later := ih restNodup fun item member =>
        elsewhere item (List.mem_cons_of_mem first member)
      have split : Query.pairsOf ((first :: rest).flatMap pairs) name =
          (pairs first).pairsOf name ++ Query.pairsOf (rest.flatMap pairs) name := by
        simp only [pairsOf, List.flatMap_cons, List.filter_append]
      rw [split, later]
      by_cases same : first = name
      · subst same
        rw [if_neg fresh, List.append_nil, if_pos List.mem_cons_self]
      · rw [elsewhere first List.mem_cons_self same, List.nil_append]
        simp only [List.mem_cons, Ne.symm same, false_or]

/-! ### Setting a value -/

theorem pairsOf_singleton_self : Query.pairsOf [(name, value)] name = [(name, value)] := by
  simp only [pairsOf, List.filter_cons, beq_self_eq_true, if_true, List.filter_nil]

theorem pairsOf_singleton_of_ne (different : name ≠ other) :
    Query.pairsOf [(name, value)] other = [] := by
  simp only [pairsOf, List.filter_cons, beq_iff_eq, different, if_false, List.filter_nil]

theorem pairsOf_append (first second : Query) :
    Query.pairsOf (first ++ second) name = first.pairsOf name ++ second.pairsOf name :=
  List.filter_append first second

theorem pairsOf_set_self (query : Query) (name value : String) :
    (query.set name value).pairsOf name = [(name, value)] := by
  have present := pairsOf_flatMap (nodup_names query) name
    (fun other => if other == name then [(name, value)] else query.pairsOf other)
    (by
      intro item _ different
      simp only [beq_iff_eq, different, if_false]
      exact pairsOf_pairsOf_of_ne different)
  simp only [beq_self_eq_true, if_true, pairsOf_singleton_self] at present
  unfold set
  by_cases known : name ∈ query.names
  · simp only [List.contains_iff_mem.mpr known, if_true, present, if_pos known]
  · have unknown : query.names.contains name = false := by
      rw [← Bool.not_eq_true, List.contains_iff_mem]
      exact known
    simp only [unknown, Bool.false_eq_true, if_false, pairsOf_append, present, if_neg known,
      pairsOf_singleton_self, List.nil_append]

theorem pairsOf_set_of_ne (query : Query) (value : String) (different : other ≠ name) :
    (query.set name value).pairsOf other = query.pairsOf other := by
  have present := pairsOf_flatMap (nodup_names query) other
    (fun item => if item == name then [(name, value)] else query.pairsOf item)
    (by
      intro item _ distinct
      by_cases same : item = name
      · simp only [same, beq_self_eq_true, if_true]
        exact pairsOf_singleton_of_ne (Ne.symm different)
      · simp only [beq_iff_eq, same, if_false]
        exact pairsOf_pairsOf_of_ne distinct)
  simp only [beq_iff_eq, different, if_false, pairsOf_pairsOf_self] at present
  have kept : (if other ∈ query.names then query.pairsOf other else []) = query.pairsOf other := by
    by_cases known : other ∈ query.names
    · rw [if_pos known]
    · rw [if_neg known, pairsOf_of_not_mem_names known]
  rw [kept] at present
  unfold set
  by_cases known : query.names.contains name = true
  · simp only [known, if_true, beq_iff_eq, present]
  · simp only [known, Bool.false_eq_true, if_false, beq_iff_eq, pairsOf_append, present,
      pairsOf_singleton_of_ne (Ne.symm different), List.append_nil]

theorem set_ne_nil (query : Query) (name value : String) : query.set name value ≠ [] := by
  intro empty
  have one := pairsOf_set_self query name value
  rw [empty] at one
  cases one

/-! ### The value that counts -/

theorem last?_eq (query : Query) (name : String) :
    query.last? name = ((query.pairsOf name).getLast?).map Prod.snd := by
  rw [last?, pairsOf, ← List.head?_reverse, ← List.filter_reverse, List.head?_filter]

theorem last?_set_self (query : Query) (name value : String) :
    (query.set name value).last? name = some value := by
  rw [last?_eq, pairsOf_set_self]
  rfl

theorem last?_set_of_ne (query : Query) (value : String) (different : other ≠ name) :
    (query.set name value).last? other = query.last? other := by
  rw [last?_eq, last?_eq, pairsOf_set_of_ne query value different]

theorem last?_of_not_mem_names (missing : name ∉ query.names) : query.last? name = none := by
  rw [last?_eq, pairsOf_of_not_mem_names missing]
  rfl

end Scep.Query
