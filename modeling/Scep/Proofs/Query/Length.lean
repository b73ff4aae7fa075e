import Mathlib
import Scep.Proofs.Query.Values

/-!
How long a query is as text.

The order of the pairs does not matter for it, so setting a value can be
measured by what it takes away and what it adds.
-/

namespace Scep.Query

variable {query other : Query} {name value : String}

/-! ### Order -/

private theorem perm_of_pairsOf (same : ∀ name, query.pairsOf name = other.pairsOf name) :
    query.Perm other := by
  rw [List.perm_iff_count]
  intro pair
  have own : (pair.1 == pair.1) = true := beq_self_eq_true pair.1
  rw [← List.count_filter (p := fun item => item.1 == pair.1) own (l := query),
    ← List.count_filter (p := fun item => item.1 == pair.1) own (l := other)]
  exact congrArg (List.count pair) (same pair.1)

def without (query : Query) (name : String) : Query := query.filter fun pair => pair.1 != name

private theorem pairsOf_without_self : (query.without name).pairsOf name = [] := by
  apply List.filter_eq_nil_iff.mpr
  intro pair member same
  have different := (List.mem_filter.mp member).2
  rw [bne, same] at different
  cases different

private theorem pairsOf_without_of_ne {item : String} (different : item ≠ name) :
    (query.without name).pairsOf item = query.pairsOf item := by
  rw [without, pairsOf, List.filter_filter]
  apply List.filter_congr
  intro pair _
  by_cases same : pair.1 = item
  · rw [same, beq_self_eq_true, Bool.true_and, bne_iff_ne]
    exact different
  · rw [beq_false_of_ne same, Bool.false_and]

theorem without_of_pairsOf_eq_nil (missing : query.pairsOf name = []) :
    query.without name = query := by
  apply List.filter_eq_self.mpr
  intro pair member
  rw [bne_iff_ne]
  intro same
  exact List.filter_eq_nil_iff.mp missing pair member (beq_iff_eq.mpr same)

theorem perm_set (query : Query) (name value : String) :
    (query.set name value).Perm (query.without name ++ [(name, value)]) := by
  apply perm_of_pairsOf
  intro item
  rw [pairsOf_append]
  by_cases same : item = name
  · rw [same, pairsOf_set_self, pairsOf_without_self, pairsOf_singleton_self, List.nil_append]
  · rw [pairsOf_set_of_ne query value same, pairsOf_without_of_ne same,
      pairsOf_singleton_of_ne (Ne.symm same), List.append_nil]

/-! ### Length -/

def size (query : Query) : Nat := (query.map fun pair => (renderPair pair).length + 1).sum

theorem length_render (given : query ≠ []) : query.render.length + 1 = query.size := by
  induction query with
  | nil => exact absurd rfl given
  | cons pair rest ih =>
      cases rest with
      | nil => simp only [render, size, List.map_cons, List.map_nil, List.intercalate_singleton,
          List.sum_cons, List.sum_nil, Nat.add_zero]
      | cons next later =>
          have others := ih (List.cons_ne_nil next later)
          simp only [render, size, List.map_cons, List.intercalate_cons_cons, List.length_append,
            List.length_singleton, List.sum_cons] at others ⊢
          omega

theorem size_set (query : Query) (name value : String) :
    (query.set name value).size =
      (query.without name).size + ((renderPair (name, value)).length + 1) := by
  have same := ((perm_set query name value).map fun pair => (renderPair pair).length + 1).sum_nat
  rw [List.map_append, List.sum_append, List.map_singleton, List.sum_singleton] at same
  exact same

theorem length_render_set_le (query : Query) {longer : String}
    (shorter : (encodeComponent value).length ≤ (encodeComponent longer).length) :
    (query.set name value).render.length ≤ (query.set name longer).render.length := by
  have first := length_render (set_ne_nil query name value)
  have second := length_render (set_ne_nil query name longer)
  rw [size_set] at first second
  simp only [renderPair, List.length_append, List.length_cons] at first second
  omega

theorem length_render_le_set (value : String) (given : query ≠ [])
    (missing : query.pairsOf name = []) :
    query.render.length ≤ (query.set name value).render.length := by
  have first := length_render given
  have second := length_render (set_ne_nil query name value)
  rw [size_set, without_of_pairsOf_eq_nil missing] at second
  omega

theorem length_renderPair_le_set (query : Query) (name value : String) :
    (renderPair (name, value)).length ≤ (query.set name value).render.length := by
  have written := length_render (set_ne_nil query name value)
  rw [size_set] at written
  omega

/-! ### Escapes -/

private theorem length_encodeChar_pos (char : Char) : 0 < (encodeChar char).length := by
  unfold encodeChar
  split
  · exact Nat.one_pos
  · split
    · exact Nat.one_pos
    · have octets := Char.utf8Size_pos char
      rw [← String.length_utf8EncodeChar] at octets
      cases spelled : String.utf8EncodeChar char with
      | nil =>
          rw [spelled] at octets
          cases octets
      | cons octet rest =>
          rw [Text.Percent.escape, spelled, List.flatMap_cons, List.length_append]
          exact Nat.add_pos_left (Nat.succ_pos _) _

theorem length_le_encodeComponent (value : String) :
    value.toList.length ≤ (encodeComponent value).length := by
  unfold encodeComponent
  induction value.toList with
  | nil => exact Nat.le_refl 0
  | cons char rest ih =>
      have one := length_encodeChar_pos char
      rw [List.length_cons, List.flatMap_cons, List.length_append]
      omega

end Scep.Query
