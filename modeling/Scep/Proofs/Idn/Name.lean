import Scep.Idn.Label
import Scep.Proofs.Text.Segment
import Scep.Proofs.Url.Rebuild
import Scep.Text.Lowercase

/-!
What host names are written with.

A name is put in small letters and its labels are encoded.  Either of the two adds
letters and figures, and the marks around a series of distances are hyphens.  So
any other sign in the name as it is looked up was in the name as it was given.
-/

namespace Scep

namespace Text

/-! ### Small letters -/

theorem ofNat_eq_of_ne_zero {value : Nat} {char : Char} (made : Char.ofNat value = char)
    (present : char.toNat ≠ 0) : value = char.toNat := by
  rw [← made, Char.toNat_ofNat] at present ⊢
  by_cases valid : value.isValidChar
  · rw [if_pos valid]
  · rw [if_neg valid] at present
    exact absurd rfl present

private theorem toLower_ascii : ∀ value < 0x80, (Char.ofNat value).toLower.toNat < 0x61 →
    (Char.ofNat value).toLower = Char.ofNat value := by
  decide

private theorem capitals_above : ∀ run ∈ capitals, (0x61 : Int) ≤ run.1 + run.2.2.2 := by
  decide +kernel

variable {sign char : Char} {text : List Char}

theorem eq_of_mem_lowerChar (present : sign.toNat ≠ 0) (below : sign.toNat < 0x61)
    (member : sign ∈ lowerChar char) : sign = char := by
  unfold lowerChar at member
  split at member
  · next ascii =>
      rw [List.mem_singleton] at member
      have unchanged := toLower_ascii char.toNat ascii
      rw [Char.ofNat_toNat, ← member] at unchanged
      exact unchanged below
  · split at member
    · simp only [List.mem_cons, List.not_mem_nil, or_false] at member
      rcases member with rfl | rfl
      · exact absurd below (by decide)
      · exact absurd below (by decide)
    · split at member
      -- A capital of a run is moved into the small letters or above them.
      · next run found =>
          rw [List.mem_singleton] at member
          have size := ofNat_eq_of_ne_zero member.symm present
          have above := capitals_above run (List.mem_of_find?_eq_some found)
          have within := List.find?_some found
          simp only [Bool.and_eq_true, decide_eq_true_eq] at within
          omega
      · exact List.mem_singleton.mp member

private theorem mem_lowerOnto (present : sign.toNat ≠ 0) (below : sign.toNat < 0x61)
    (before done : List Char) (member : sign ∈ lowerOnto before done text) :
    sign ∈ done ∨ sign ∈ text := by
  induction text generalizing before done with
  | nil => exact Or.inl (List.mem_reverse.mp member)
  | cons char rest ih =>
      unfold lowerOnto at member
      rcases ih _ _ member with written | later
      · rcases List.mem_append.mp written with small | earlier
        · rw [List.mem_reverse] at small
          split at small
          · rw [List.mem_singleton] at small
            split at small
            · exact absurd (small ▸ below) (by decide)
            · exact absurd (small ▸ below) (by decide)
          · rw [eq_of_mem_lowerChar present below small]
            exact Or.inr List.mem_cons_self
        · exact Or.inl earlier
      · exact Or.inr (List.mem_cons_of_mem char later)

theorem mem_of_mem_lower (present : sign.toNat ≠ 0) (below : sign.toNat < 0x61)
    (member : sign ∈ lower text) : sign ∈ text :=
  (mem_lowerOnto present below [] [] member).resolve_left List.not_mem_nil

end Text

namespace Idn

/-! ### Labels -/

theorem eq_of_guarded {ε α : Type} {refused : Prop} [Decidable refused] {flaw : ε}
    {value result : α}
    (done : (if refused then .error flaw else .ok value : Except ε α) = .ok result) :
    result = value := by
  by_cases given : refused
  · rw [if_pos given] at done
    cases done
  · rw [if_neg given] at done
    cases done
    rfl

namespace Punycode

theorem threshold_bounds (place bias : Nat) :
    1 ≤ threshold place bias ∧ threshold place bias ≤ 26 := by
  unfold threshold
  by_cases before : place ≤ bias
  · rw [if_pos before]
    omega
  · rw [if_neg before]
    by_cases after : 26 ≤ place - bias
    · rw [if_pos after]
      omega
    · rw [if_neg after]
      omega

private theorem isAlphanum_figure : ∀ digit < 36, (figure digit).isAlphanum = true := by
  decide

private theorem exists_figure_of_mem_digits (bias place distance : Nat) {char : Char}
    (member : char ∈ digits bias place distance) : ∃ digit < 36, char = figure digit := by
  obtain ⟨positive, most⟩ := threshold_bounds place bias
  rw [digits] at member
  by_cases last : distance < threshold place bias
  · simp only [if_pos last, List.mem_singleton] at member
    exact ⟨distance, by omega, member⟩
  · simp only [if_neg last, List.mem_cons] at member
    rcases member with first | later
    · have small : (distance - threshold place bias) % (36 - threshold place bias) <
          36 - threshold place bias := Nat.mod_lt _ (by omega)
      exact ⟨_, by omega, first⟩
    · exact exists_figure_of_mem_digits bias (place + 36) _ later
termination_by distance
decreasing_by
  have shorter := Nat.div_le_self (distance - threshold place bias) (36 - threshold place bias)
  omega

def Writer.HasDigits (writer : Writer) : Prop :=
  ∀ char ∈ writer.done, ∃ digit < 36, char = figure digit

theorem Writer.HasDigits.start (bias placed : Nat) : Writer.HasDigits ⟨0, bias, placed, []⟩ :=
  fun _ written => absurd written List.not_mem_nil

private theorem Writer.HasDigits.pass {writer : Writer} (written : writer.HasDigits)
    (basic codepoint : Nat) (char : Char) : (writer.pass basic codepoint char).HasDigits := by
  unfold Writer.pass
  split
  · exact written
  · split
    · intro other member
      rcases List.mem_append.mp member with own | earlier
      · exact exists_figure_of_mem_digits _ _ _ (List.mem_reverse.mp own)
      · exact written other earlier
    · exact written

private theorem Writer.HasDigits.foldl_pass {writer : Writer} (written : writer.HasDigits)
    (basic codepoint : Nat) (label : List Char) :
    (label.foldl (Writer.pass basic codepoint) writer).HasDigits := by
  induction label generalizing writer with
  | nil => exact written
  | cons char rest ih => exact ih (written.pass basic codepoint char)

theorem Writer.HasDigits.insertAll {writer : Writer} (written : writer.HasDigits)
    (label : List Char) (basic previous : Nat) (codepoints : List Nat) :
    (writer.insertAll label basic previous codepoints).HasDigits := by
  induction codepoints generalizing writer previous with
  | nil => exact written
  | cons codepoint rest ih =>
      let start : Writer := { writer with
        distance := writer.distance + (codepoint - previous) * (writer.placed + 1) }
      have started : start.HasDigits := written
      have passed := started.foldl_pass basic codepoint label
      exact @ih { label.foldl (Writer.pass basic codepoint) start with
        distance := (label.foldl (Writer.pass basic codepoint) start).distance + 1 } passed
        (codepoint + 1)

variable {sign : Char} {label : List Char}

/-- What an encoded label consists of: its own ASCII characters, a mark behind
them, and digits. -/
theorem mem_encode (member : sign ∈ encode label) :
    sign ∈ label ∧ sign.toNat < 0x80 ∨ sign = '-' ∨ ∃ digit < 36, sign = figure digit := by
  unfold encode at member
  rcases List.mem_append.mp member with basic | series
  · split at basic
    · cases basic
    · rcases List.mem_append.mp basic with own | mark
      · obtain ⟨there, plain⟩ := List.mem_filter.mp own
        exact Or.inl ⟨there, of_decide_eq_true plain⟩
      · exact Or.inr (Or.inl (List.mem_singleton.mp mark))
  · exact Or.inr (Or.inr
      ((Writer.HasDigits.start _ _).insertAll label _ _ _ sign (List.mem_reverse.mp series)))

private theorem mem_of_mem_encode (sharp : sign.isAlphanum = false) (hyphen : sign ≠ '-')
    (member : sign ∈ encode label) : sign ∈ label := by
  rcases mem_encode member with ⟨own, _⟩ | mark | ⟨digit, small, rfl⟩
  · exact own
  · exact absurd mark hyphen
  · rw [isAlphanum_figure digit small] at sharp
    cases sharp

end Punycode

variable {sign : Char} {label name encoded : List Char}

/-- A label that is looked up as it is has a form in which it is shown, and any
other one is shown in the form in which it is given. -/
theorem encodedLabel_cases (done : encodedLabel label = .ok encoded) :
    ((∀ char ∈ label, char.toNat < 0x80) ∧ (∃ shown, shownLabel label = .ok shown) ∧
        encoded = label) ∨
      (∃ char ∈ label, 0x80 ≤ char.toNat) ∧ checkLabel label = .ok () ∧
        encoded = encodedMark ++ Punycode.encode label := by
  unfold encodedLabel at done
  split at done
  · next plain =>
      obtain ⟨shown, passed, done⟩ := bind_eq_ok done
      obtain ⟨_, same, done⟩ := bind_eq_ok done
      cases same
      refine Or.inl ⟨fun char member => ?_, ⟨shown, passed⟩, eq_of_guarded done⟩
      exact of_decide_eq_true (List.all_eq_true.mp plain char member)
  · next high =>
      obtain ⟨_, passed, done⟩ := bind_eq_ok done
      obtain ⟨_, same, done⟩ := bind_eq_ok done
      cases same
      rw [List.all_eq_true] at high
      push Not at high
      obtain ⟨char, member, above⟩ := high
      refine Or.inr ⟨⟨char, member, ?_⟩, passed, eq_of_guarded done⟩
      rwa [ne_eq, decide_eq_true_eq, Nat.not_lt] at above

theorem mem_of_mem_encodedLabel (sharp : sign.isAlphanum = false) (hyphen : sign ≠ '-')
    (done : encodedLabel label = .ok encoded) (member : sign ∈ encoded) : sign ∈ label := by
  rcases encodedLabel_cases done with ⟨_, _, rfl⟩ | ⟨_, _, rfl⟩
  · exact member
  · rcases List.mem_append.mp member with mark | coded
    · simp only [encodedMark, List.mem_cons, List.not_mem_nil, or_false] at mark
      rcases mark with rfl | rfl | rfl | rfl
      · exact absurd sharp (by decide)
      · exact absurd sharp (by decide)
      · exact absurd rfl hyphen
      · exact absurd rfl hyphen
    · exact Punycode.mem_of_mem_encode sharp hyphen coded

/-! ### Names -/

theorem of_labels {parts : List (List Char)} {isRooted : Bool}
    (parted : labels name = .ok (parts, isRooted)) : parts ≠ [] ∧ ∀ part ∈ parts,
      part ∈ Text.splitOn '.' (name.map fun char => if isDot char then '.' else char) := by
  have given := Text.splitOn_ne_nil '.' (name.map fun char => if isDot char then '.' else char)
  unfold labels at parted
  simp only at parted
  generalize Text.splitOn '.' (name.map fun char => if isDot char then '.' else char) = pieces at *
  split at parted
  · cases parted
  · next several =>
      split at parted
      -- What is before the last dot is not empty, or the name would be the dot alone.
      · next rooted =>
          cases parted
          refine ⟨?_, fun part member => List.mem_of_mem_dropLast member⟩
          obtain ⟨front, rfl⟩ := List.getLast?_eq_some_iff.mp (beq_iff_eq.mp rooted)
          rw [List.dropLast_concat]
          rintro rfl
          exact several rfl
      · cases parted
        exact ⟨given, fun _ member => member⟩

private theorem mem_of_mem_labels {parts : List (List Char)} {isRooted : Bool} (dot : sign ≠ '.')
    (parted : labels name = .ok (parts, isRooted)) (held : ∃ part ∈ parts, sign ∈ part) :
    sign ∈ name := by
  obtain ⟨part, among, within⟩ := held
  obtain ⟨char, there, same⟩ := List.mem_map.mp
    ((Text.mem_splitOn_iff dot _).mp ⟨part, (of_labels parted).2 part among, within⟩)
  split at same
  · exact absurd same.symm dot
  · exact same ▸ there

theorem mem_of_mem_encodedName (sharp : sign.isAlphanum = false) (hyphen : sign ≠ '-')
    (dot : sign ≠ '.') (done : encodedName name = .ok encoded) (member : sign ∈ encoded) :
    sign ∈ name := by
  unfold encodedName at done
  obtain ⟨⟨parts, isRooted⟩, parted, done⟩ := bind_eq_ok done
  obtain ⟨others, written, done⟩ := bind_eq_ok done
  rw [eq_of_guarded done] at member
  obtain ⟨piece, among, within⟩ := (Text.mem_intercalate_iff dot _).mp member
  have held : piece ∈ others := by
    rcases List.mem_append.mp among with own | root
    · exact own
    · split at root
      · rw [List.mem_singleton.mp root] at within
        cases within
      · cases root
  obtain ⟨part, there, own⟩ := exists_of_mem_mapM written held
  exact mem_of_mem_labels dot parted ⟨part, there, mem_of_mem_encodedLabel sharp hyphen own within⟩

end Idn

end Scep
