import Scep.Proofs.Text.Percent
import Scep.Query

/-!
Queries that are written and read back, and what setting a value changes.

A written query holds no mark but those that part pairs and those that part
names from values, so every query is read back as it was.  Setting a value
leaves the values of all other names as they are.
-/

namespace Scep

namespace Text

theorem splitOn_eq (mark : Char) (text : List Char) : splitOn mark text = text.splitOn mark := by
  induction text with
  | nil => rfl
  | cons char rest ih =>
      change splitStep mark char (splitOn mark rest) = _
      rw [ih, List.splitOn_cons_eq_if_modifyHead]
      by_cases marked : char = mark
      · simp only [splitStep, marked, if_true, beq_self_eq_true]
      · simp only [splitStep, marked, if_false, beq_iff_eq]
        cases pieces : rest.splitOn mark with
        | nil => exact absurd pieces (List.splitOn_ne_nil mark rest)
        | cons piece others => rfl

theorem Percent.toNat_lt_of_isUnreserved {char : Char}
    (unreserved : Percent.isUnreserved char = true) : char.toNat < 0x80 := by
  have bound : char.val.toNat ≤ 126 := by
    change (decide (char.val ≥ 'A'.val ∧ char.val ≤ 'Z'.val) ||
      decide (char.val ≥ 'a'.val) && decide (char.val ≤ 'z'.val) ||
      decide (char.val ≥ '0'.val) && decide (char.val ≤ '9'.val) ||
      char == '-' || char == '.' || char == '_' || char == '~') = true at unreserved
    simp only [Bool.or_eq_true, Bool.and_eq_true, decide_eq_true_eq, beq_iff_eq,
      UInt32.le_iff_toNat_le] at unreserved
    rcases unreserved with
      ((((((upper | lower) | digit) | hyphen) | dot) | line) | tilde)
    · exact Nat.le_trans upper.2 (by decide)
    · exact Nat.le_trans lower.2 (by decide)
    · exact Nat.le_trans digit.2 (by decide)
    · rw [hyphen]
      decide
    · rw [dot]
      decide
    · rw [line]
      decide
    · rw [tilde]
      decide
  exact Nat.lt_of_le_of_lt bound (by decide)

end Text

namespace Query

open Text (Utf8.Decoder)

/-! ### Components -/

def isWritten (char : Char) : Bool :=
  char == '+' || char == '%' || Text.Percent.isUnreserved char

private theorem isWritten_of_mem_encodeChar {char other : Char} (member : other ∈ encodeChar char) :
    isWritten other = true := by
  unfold encodeChar at member
  by_cases space : char = ' '
  · rw [if_pos space, List.mem_singleton] at member
    rw [member]
    rfl
  · rw [if_neg space] at member
    by_cases unreserved : Text.Percent.isUnreserved char = true
    · rw [if_pos unreserved, List.mem_singleton] at member
      simp only [isWritten, member, unreserved, Bool.or_true]
    · rw [if_neg unreserved] at member
      rcases Text.Percent.mem_escape member with sign | plain
      · rw [sign]
        rfl
      · simp only [isWritten, Text.Percent.isUnreserved, plain, Bool.true_or, Bool.or_true]

private theorem isWritten_of_mem_encodeComponent {text : String} {other : Char}
    (member : other ∈ encodeComponent text) : isWritten other = true := by
  obtain ⟨char, _, written⟩ := List.mem_flatMap.mp member
  exact isWritten_of_mem_encodeChar written

private theorem toNat_lt_of_isWritten {char : Char} (written : isWritten char = true) :
    char.toNat < 0x80 := by
  simp only [isWritten, Bool.or_eq_true, beq_iff_eq] at written
  rcases written with (plus | sign) | unreserved
  · rw [plus]
    decide
  · rw [sign]
    decide
  · exact Text.Percent.toNat_lt_of_isUnreserved unreserved

private theorem spaced_of_ne {char : Char} (other : char ≠ '+') : spaced char = char := if_neg other

private theorem map_spaced_escape (char : Char) :
    (Text.Percent.escape char).map spaced = Text.Percent.escape char := by
  have all : ∀ other ∈ Text.Percent.escape char, spaced other = id other := by
    intro other member
    apply spaced_of_ne
    intro plus
    subst plus
    rcases Text.Percent.mem_escape member with sign | plain
    · exact absurd sign (by decide)
    · exact absurd plain (by decide)
  rw [List.map_congr_left all, List.map_id]

private theorem decodeInto_encodeChar (done : List Char) (char : Char) (rest : List Char) :
    Text.Percent.decodeInto ⟨done, none⟩ ((encodeChar char).map spaced ++ rest) =
      Text.Percent.decodeInto ⟨char :: done, none⟩ rest := by
  unfold encodeChar
  by_cases space : char = ' '
  · rw [if_pos space, space]
    exact Text.Percent.decodeInto_plain (by decide) (by decide) rest
  · rw [if_neg space]
    by_cases unreserved : Text.Percent.isUnreserved char = true
    · have plus : char ≠ '+' := by
        intro same
        rw [same] at unreserved
        exact absurd unreserved (by decide)
      have sign : char ≠ '%' := by
        intro same
        rw [same] at unreserved
        exact absurd unreserved (by decide)
      rw [if_pos unreserved, List.map_singleton, spaced_of_ne plus, List.singleton_append]
      exact Text.Percent.decodeInto_plain (Text.Percent.toNat_lt_of_isUnreserved unreserved)
        sign rest
    · rw [if_neg unreserved, map_spaced_escape]
      exact Text.Percent.decodeInto_escape rest

private theorem decodeInto_encodeChars (done text : List Char) :
    Text.Percent.decodeInto ⟨done, none⟩ ((text.flatMap encodeChar).map spaced) =
      done.reverse ++ text := by
  induction text generalizing done with
  | nil => exact (List.append_nil _).symm
  | cons char rest ih =>
      rw [List.flatMap_cons, List.map_append, decodeInto_encodeChar, ih, List.reverse_cons,
        List.append_assoc, List.singleton_append]

private theorem decodeComponent_encodeComponent (text : String) :
    decodeComponent (encodeComponent text) = text := by
  have read : Text.Percent.decode ((text.toList.flatMap encodeChar).map spaced) = text.toList :=
    decodeInto_encodeChars [] text.toList
  rw [decodeComponent, encodeComponent, read, String.ofList_toList]

/-! ### Pairs and queries -/

def isMarkedOrWritten (char : Char) : Bool := char == '&' || char == '=' || isWritten char

private theorem equals_not_mem_encodeComponent (text : String) : '=' ∉ encodeComponent text := by
  intro member
  exact absurd (isWritten_of_mem_encodeComponent member) (by decide)

private theorem mem_renderPair {pair : String × String} {char : Char}
    (member : char ∈ renderPair pair) :
    char = '=' ∨ isWritten char = true := by
  rcases List.mem_append.mp member with name | rest
  · exact Or.inr (isWritten_of_mem_encodeComponent name)
  · rcases List.mem_cons.mp rest with equals | value
    · exact Or.inl equals
    · exact Or.inr (isWritten_of_mem_encodeComponent value)

private theorem ampersand_not_mem_renderPair (pair : String × String) : '&' ∉ renderPair pair := by
  intro member
  rcases mem_renderPair member with equals | written
  · exact absurd equals (by decide)
  · exact absurd written (by decide)

private theorem parsePair_renderPair (pair : String × String) : parsePair (renderPair pair) =
    pair := by
  have name : (renderPair pair).takeWhile (· ≠ '=') = encodeComponent pair.1 := by
    have before : ∀ char ∈ encodeComponent pair.1, decide (char ≠ '=') = true := by
      intro char member
      rw [decide_eq_true_eq]
      intro equals
      subst equals
      exact equals_not_mem_encodeComponent pair.1 member
    rw [renderPair, List.takeWhile_append_of_pos before, List.takeWhile_cons_of_neg (by simp),
      List.append_nil]
  have value : (renderPair pair).drop ((encodeComponent pair.1).length + 1) =
      encodeComponent pair.2 := by
    rw [renderPair, List.drop_append, List.drop_of_length_le (Nat.le_add_right _ 1),
      Nat.add_sub_cancel_left, List.nil_append, List.drop_one, List.tail_cons]
  simp only [parsePair, name, value, decodeComponent_encodeComponent]

theorem parse_render (query : Query) : parse (render query) = query := by
  cases query with
  | nil => rfl
  | cons pair rest =>
      have unmarked : ∀ piece ∈ (pair :: rest).map renderPair, '&' ∉ piece := by
        intro piece member
        obtain ⟨other, _, rendered⟩ := List.mem_map.mp member
        rw [← rendered]
        exact ampersand_not_mem_renderPair other
      have pieces : Text.splitOn '&' (render (pair :: rest)) = (pair :: rest).map renderPair := by
        rw [Text.splitOn_eq, render, List.splitOn_intercalate '&' unmarked (by simp)]
      have present : ∀ piece ∈ (pair :: rest).map renderPair, (!piece.isEmpty) = true := by
        intro piece member
        obtain ⟨other, _, rendered⟩ := List.mem_map.mp member
        rw [← rendered, renderPair]
        cases encodeComponent other.1 with
        | nil => rfl
        | cons first others => rfl
      rw [parse, pieces, List.filter_eq_self.mpr present, List.map_map]
      have all : ∀ other ∈ pair :: rest, (parsePair ∘ renderPair) other = id other := by
        intro other _
        exact parsePair_renderPair other
      rw [List.map_congr_left all, List.map_id]

theorem isMarkedOrWritten_of_mem_render {query : Query} {char : Char}
    (member : char ∈ render query) : isMarkedOrWritten char = true := by
  induction query with
  | nil => cases member
  | cons pair rest ih =>
      have inPair : char ∈ renderPair pair → isMarkedOrWritten char = true := by
        intro written
        rcases mem_renderPair written with equals | written
        · rw [equals]
          rfl
        · simp only [isMarkedOrWritten, written, Bool.or_true]
      cases rest with
      | nil =>
          simp only [render, List.map_cons, List.map_nil, List.intercalate_singleton] at member
          exact inPair member
      | cons next others =>
          simp only [render, List.map_cons, List.intercalate_cons_cons] at member ih
          rcases List.mem_append.mp member with here | there
          · rcases List.mem_append.mp here with pairMember | mark
            · exact inPair pairMember
            · rw [List.mem_singleton.mp mark]
              rfl
          · exact ih there

theorem toNat_lt_of_isMarkedOrWritten {char : Char} (marked : isMarkedOrWritten char = true) :
    char.toNat < 0x80 := by
  simp only [isMarkedOrWritten, Bool.or_eq_true, beq_iff_eq] at marked
  rcases marked with (ampersand | equals) | written
  · rw [ampersand]
    decide
  · rw [equals]
    decide
  · exact toNat_lt_of_isWritten written

theorem toNat_lt_of_mem_render {query : Query} {char : Char} (member : char ∈ render query) :
    char.toNat < 0x80 :=
  toNat_lt_of_isMarkedOrWritten (isMarkedOrWritten_of_mem_render member)

end Query

end Scep
