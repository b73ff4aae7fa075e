import Mathlib
import Scep.Proofs.Query.Text
import Scep.Proofs.Text.Search

/-!
Escaped texts, and texts in pieces.

Escapes consist of letters, figures and percent signs, so there is nothing to
escape in what was escaped, and a mark that needs no escape parts a text into the
same pieces before and after.
-/

namespace Scep.Text

variable {mark sign : Char}

/-! ### Pieces -/

theorem splitOn_ne_nil (mark : Char) (text : List Char) : splitOn mark text ≠ [] := by
  rw [splitOn_eq]
  exact List.splitOn_ne_nil mark text

theorem splitOn_cons_of_ne {first : Char} (other : first ≠ mark) (rest : List Char) :
    ∃ piece pieces, splitOn mark (first :: rest) = (first :: piece) :: pieces := by
  change ∃ piece pieces, splitStep mark first (splitOn mark rest) = _
  simp only [splitStep, if_neg other]
  cases split : splitOn mark rest with
  | nil => exact ⟨[], [], rfl⟩
  | cons piece pieces => exact ⟨piece, pieces, rfl⟩

private theorem intercalate_splitOn (mark : Char) (text : List Char) :
    [mark].intercalate (splitOn mark text) = text := by
  rw [splitOn_eq, List.intercalate_splitOn]

theorem splitOn_intercalate {pieces : List (List Char)} (given : pieces ≠ [])
    (unmarked : ∀ piece ∈ pieces, mark ∉ piece) :
    splitOn mark ([mark].intercalate pieces) = pieces := by
  rw [splitOn_eq, List.splitOn_intercalate mark unmarked given]

theorem mark_not_mem_of_mem_splitOn {text piece : List Char} (found : piece ∈ splitOn mark text) :
    mark ∉ piece := by
  induction text generalizing piece with
  | nil =>
      rw [List.mem_singleton.mp found]
      exact List.not_mem_nil
  | cons char rest ih =>
      change piece ∈ splitStep mark char (splitOn mark rest) at found
      by_cases same : char = mark
      · simp only [splitStep, if_pos same] at found
        rcases List.mem_cons.mp found with rfl | later
        · exact List.not_mem_nil
        · exact ih later
      · have unmarked : ∀ {part : List Char}, mark ∉ part → mark ∉ char :: part :=
          fun absent member => (List.mem_cons.mp member).elim (fun own => same own.symm) absent
        simp only [splitStep, if_neg same] at found
        cases pieces : splitOn mark rest with
        | nil => exact absurd pieces (splitOn_ne_nil mark rest)
        | cons first others =>
            rw [pieces] at ih
            simp only [pieces, List.mem_cons] at found
            rcases found with rfl | later
            · exact unmarked (ih List.mem_cons_self)
            · exact ih (List.mem_cons_of_mem first later)

theorem mem_intercalate_iff (other : sign ≠ mark) (pieces : List (List Char)) :
    sign ∈ [mark].intercalate pieces ↔ ∃ piece ∈ pieces, sign ∈ piece := by
  have unmarked : mark ∉ [sign] := fun same => other (List.mem_singleton.mp same).symm
  have occurs := infix_intercalate_iff (List.cons_ne_nil sign []) unmarked pieces
  simp only [List.singleton_infix_iff] at occurs
  exact occurs

theorem mem_splitOn_iff (other : sign ≠ mark) (text : List Char) :
    (∃ piece ∈ splitOn mark text, sign ∈ piece) ↔ sign ∈ text := by
  rw [← mem_intercalate_iff other, intercalate_splitOn]

/-! ### The last mark -/

private theorem ne_of_mem_reverse {text : List Char} (absent : mark ∉ text) :
    ∀ char ∈ text.reverse, decide (char ≠ mark) = true := by
  intro char member
  rw [decide_eq_true_eq]
  rintro rfl
  exact absent (List.mem_reverse.mp member)

theorem takeWhile_reverse_of_not_mem {text : List Char} (absent : mark ∉ text) :
    text.reverse.takeWhile (· ≠ mark) = text.reverse :=
  List.takeWhile_eq_self_iff.mpr (ne_of_mem_reverse absent)

theorem takeWhile_reverse_after {before after : List Char} (absent : mark ∉ after) :
    (before ++ mark :: after).reverse.takeWhile (· ≠ mark) = after.reverse := by
  rw [List.reverse_append, List.reverse_cons, List.append_assoc,
    List.takeWhile_append_of_pos (ne_of_mem_reverse absent), List.singleton_append,
    List.takeWhile_cons_of_neg (by simp), List.append_nil]

/-! ### Escaped texts -/

namespace Percent

variable {safe : Char → Bool} {text : List Char}

/-- Characters of which escapes consist need no escape themselves. -/
structure Covers (safe : Char → Bool) : Prop where
  sign : safe '%' = true
  digit : ∀ char : Char, char.isAlphanum = true → safe char = true

theorem Covers.of_ascii (sign : safe '%' = true) (digits : ∀ value < 0x80,
    (Char.ofNat value).isAlphanum = true → safe (Char.ofNat value) = true) : Covers safe := by
  refine ⟨sign, fun char digit => ?_⟩
  have unreserved : isUnreserved char = true := by
    simp only [isUnreserved, digit, Bool.true_or]
  have small := toNat_lt_of_isUnreserved unreserved
  rw [← Char.ofNat_toNat char] at digit ⊢
  exact digits char.toNat small digit

theorem mem_encode {char : Char} (member : char ∈ encode safe text) :
    char ∈ text ∧ safe char = true ∨ char = '%' ∨ char.isAlphanum = true := by
  obtain ⟨own, there, written⟩ := List.mem_flatMap.mp member
  by_cases shown : safe own = true
  · rw [if_pos shown, List.mem_singleton] at written
    subst written
    exact Or.inl ⟨there, shown⟩
  · rw [if_neg shown] at written
    exact Or.inr (mem_escape written)

theorem encode_encode (covers : Covers safe) (text : List Char) :
    encode safe (encode safe text) = encode safe text := by
  apply encode_of_safe
  intro char member
  rcases mem_encode member with ⟨_, shown⟩ | sign | digit
  · exact shown
  · rw [sign]
    exact covers.sign
  · exact covers.digit char digit

private theorem sign_mem_escape (char : Char) : '%' ∈ escape char := by
  obtain ⟨head, tail, octets, _⟩ := Utf8.encodeChar_eq_cons char
  rw [escape, octets, List.flatMap_cons]
  exact List.mem_append_left _ List.mem_cons_self

theorem encode_of_unescaped (unescaped : '%' ∉ encode safe text) : encode safe text = text := by
  apply encode_of_safe
  intro char member
  by_contra hidden
  refine unescaped (List.mem_flatMap.mpr ⟨char, member, ?_⟩)
  rw [if_neg hidden]
  exact sign_mem_escape char

private theorem encode_intercalate (shown : safe mark = true) (pieces : List (List Char)) :
    encode safe ([mark].intercalate pieces) = [mark].intercalate (pieces.map (encode safe)) := by
  have between : encode safe [mark] = [mark] :=
    encode_of_safe fun _ member => List.mem_singleton.mp member ▸ shown
  have split : encode safe ([mark].intercalate pieces) =
      (encode safe [mark]).intercalate (pieces.map (encode safe)) := flatMap_intercalate _ _ _
  rw [split, between]

theorem splitOn_encode (shown : safe mark = true) (other : mark ≠ '%')
    (sharp : mark.isAlphanum = false) (text : List Char) :
    splitOn mark (encode safe text) = (splitOn mark text).map (encode safe) := by
  have given : (splitOn mark text).map (encode safe) ≠ [] :=
    fun none => splitOn_ne_nil mark text (List.map_eq_nil_iff.mp none)
  have unmarked : ∀ piece ∈ (splitOn mark text).map (encode safe), mark ∉ piece := by
    intro piece member within
    obtain ⟨own, found, rfl⟩ := List.mem_map.mp member
    rcases mem_encode within with ⟨there, _⟩ | same | digit
    · exact mark_not_mem_of_mem_splitOn found there
    · exact other same
    · rw [sharp] at digit
      cases digit
  have encoded := splitOn_intercalate given unmarked
  rwa [← encode_intercalate shown, intercalate_splitOn] at encoded

end Percent

end Scep.Text
