import Scep.Proofs.Idn.Punycode

/-!
Names that are encoded can be shown.

A label that is not plain passed the check of labels before it was encoded, so it
has no capitals and its encoded form is in small letters already.  This form ends
with a digit, and it decodes to the label, which passes the same check again.  A
plain label is shown to be looked up at all.  The encoded labels have no dots, so
the name parts into them again.
-/

namespace Scep.Idn

variable {label name encoded : List Char}

/-! ### Small letters -/

private theorem toLower_of_not_capital {char : Char}
    (small : ¬(0x41 ≤ char.toNat ∧ char.toNat ≤ 0x5A)) : char.toLower = char := by
  unfold Char.toLower
  exact dif_neg small

private theorem not_capital_of_holds {table : List (Nat × Nat)} {codepoint : Nat}
    (apart : table.all (fun run => run.2 < 0x41 || 0x5A < run.1) = true)
    (held : Table.holds table codepoint = true) : ¬(0x41 ≤ codepoint ∧ codepoint ≤ 0x5A) := by
  obtain ⟨run, member, within⟩ := List.any_eq_true.mp held
  have outside := List.all_eq_true.mp apart run member
  simp only [Bool.or_eq_true, Bool.and_eq_true, decide_eq_true_eq] at within outside
  omega

private theorem checkCodepoints_cons {before after : List Char} {char : Char}
    (passed : checkCodepoints label before (char :: after) = .ok ()) :
    char.toLower = char ∧ checkCodepoints label (char :: before) after = .ok () := by
  unfold checkCodepoints at passed
  dsimp only at passed
  split at passed
  · next valid =>
      exact ⟨toLower_of_not_capital (not_capital_of_holds (by decide +kernel) valid), passed⟩
  split at passed
  · next joiner =>
      split at passed
      · exact ⟨toLower_of_not_capital (not_capital_of_holds (by decide) joiner), passed⟩
      · cases passed
  split at passed
  · next other =>
      split at passed
      · exact ⟨toLower_of_not_capital (not_capital_of_holds (by decide) other), passed⟩
      · cases passed
  · cases passed

private theorem toLower_of_checkCodepoints {before after : List Char}
    (passed : checkCodepoints label before after = .ok ()) :
    ∀ char ∈ after, char.toLower = char := by
  induction after generalizing before with
  | nil => exact fun _ member => absurd member List.not_mem_nil
  | cons char rest ih =>
      obtain ⟨own, later⟩ := checkCodepoints_cons passed
      exact List.forall_mem_cons.mpr ⟨own, ih later⟩

private theorem toLower_of_checkLabel (passed : checkLabel label = .ok ()) :
    ∀ char ∈ label, char.toLower = char := by
  unfold checkLabel at passed
  dsimp only at passed
  -- The five conditions before the code points are checked.
  iterate 5
    split at passed
    · cases passed
  obtain ⟨_, codepoints, _⟩ := bind_eq_ok passed
  exact toLower_of_checkCodepoints codepoints

/-! ### Labels -/

private theorem figure_plain : ∀ digit < 36, (Punycode.figure digit).toLower = Punycode.figure digit
    ∧ (Punycode.figure digit).toNat < 0x80 := by
  decide

/-- An encoded label is plain and in small letters. -/
theorem plain_of_mem_encode (passed : checkLabel label = .ok ()) :
    ∀ char ∈ Punycode.encode label, char.toLower = char ∧ char.toNat < 0x80 := by
  intro char member
  rcases Punycode.mem_encode member with ⟨own, plain⟩ | rfl | ⟨digit, small, rfl⟩
  · exact ⟨toLower_of_checkLabel passed char own, plain⟩
  · exact ⟨by decide, by decide⟩
  · exact figure_plain digit small

private theorem getLast?_encode {char : Char} (member : char ∈ label) (high : 0x80 ≤ char.toNat) :
    ∃ digit < 36, (Punycode.encode label).getLast? = some (Punycode.figure digit) := by
  have digits := Punycode.series_ne_nil member high
  obtain ⟨digit, small, last⟩ :=
    Punycode.exists_figure_of_mem_series (List.getLast_mem digits)
  refine ⟨digit, small, ?_⟩
  rw [Punycode.encode_eq, List.getLast?_append_of_ne_nil _ digits,
    List.getLast?_eq_some_getLast digits, last]

private theorem shownLabel_encode {char : Char} (member : char ∈ label) (high : 0x80 ≤ char.toNat)
    (passed : checkLabel label = .ok ()) :
    shownLabel (encodedMark ++ Punycode.encode label) = .ok label := by
  have small : (encodedMark ++ Punycode.encode label).map Char.toLower =
      encodedMark ++ Punycode.encode label := by
    have kept : (Punycode.encode label).map Char.toLower = Punycode.encode label :=
      (List.map_congr_left fun char member => (plain_of_mem_encode passed char member).1).trans
        (List.map_id _)
    rw [List.map_append, kept]
    rfl
  have marked : encodedMark.isPrefixOf (encodedMark ++ Punycode.encode label) = true :=
    List.isPrefixOf_iff_prefix.mpr (List.prefix_append _ _)
  have behind : (encodedMark ++ Punycode.encode label).drop 4 = Punycode.encode label := rfl
  obtain ⟨digit, below, last⟩ := getLast?_encode member high
  have given : (Punycode.encode label).isEmpty = false := by
    rw [List.isEmpty_eq_false_iff]
    intro none
    rw [none] at last
    cases last
  have ended : (some (Punycode.figure digit) == some '-') = false :=
    beq_eq_false_iff_ne.mpr fun same =>
      Punycode.figure_ne_hyphen digit below (Option.some.inj same)
  unfold shownLabel
  simp only [small, marked, behind, given, last, ended, Punycode.decode?_encode, passed,
    Bool.false_eq_true, if_true, if_false]
  rfl

structure IsWritten (label : List Char) : Prop where
  filled : label ≠ []
  plain : ∀ char ∈ label, char.toNat < 0x80
  undotted : '.' ∉ label

private theorem isWritten_of_encodedLabel (undotted : '.' ∉ label)
    (done : encodedLabel label = .ok encoded) : IsWritten encoded where
  filled := by
    rcases encodedLabel_cases done with ⟨_, ⟨shown, known⟩, rfl⟩ | ⟨_, _, rfl⟩
    · rintro rfl
      cases known
    · exact List.cons_ne_nil _ _
  plain := by
    rcases encodedLabel_cases done with ⟨plain, _, rfl⟩ | ⟨_, passed, rfl⟩
    · exact plain
    · have mark : encodedMark.all (fun char => char.toNat < 0x80) = true := by decide
      intro char member
      rcases List.mem_append.mp member with begins | own
      · exact of_decide_eq_true (List.all_eq_true.mp mark char begins)
      · exact (plain_of_mem_encode passed char own).2
  undotted := fun dot => undotted (mem_of_mem_encodedLabel (by decide) (by decide) done dot)

private theorem exists_shownLabel (done : encodedLabel label = .ok encoded) :
    ∃ shown, shownLabel encoded = .ok shown := by
  rcases encodedLabel_cases done with ⟨_, known, rfl⟩ | ⟨⟨char, member, high⟩, passed, rfl⟩
  · exact known
  · exact ⟨label, shownLabel_encode member high passed⟩

/-! ### Names -/

private theorem map_dots_of_plain {text : List Char} (plain : ∀ char ∈ text, char.toNat < 0x80) :
    (text.map fun char => if isDot char then '.' else char) = text := by
  have kept : ∀ char ∈ text, (if isDot char then '.' else char) = char := by
    intro char member
    by_cases dot : char = '.'
    · rw [dot]
      rfl
    · have small := plain char member
      have other : isDot char = false := by
        simp only [isDot, Bool.or_eq_false_iff, beq_eq_false_iff_ne]
        exact ⟨⟨⟨dot, by omega⟩, by omega⟩, by omega⟩
      rw [other]
      rfl
  exact (List.map_congr_left kept).trans (List.map_id _)

private theorem labels_joinLabels {parts : List (List Char)} (isRooted : Bool) (given : parts ≠ [])
    (written : ∀ part ∈ parts, IsWritten part) :
    labels (joinLabels parts isRooted) = .ok (parts, isRooted) := by
  have pieces : ∀ part ∈ parts ++ (if isRooted then [[]] else []),
      '.' ∉ part ∧ ∀ char ∈ part, char.toNat < 0x80 := by
    intro part member
    rcases List.mem_append.mp member with own | root
    · exact ⟨(written part own).undotted, (written part own).plain⟩
    · have empty : part = [] := by
        split at root
        · exact List.mem_singleton.mp root
        · cases root
      rw [empty]
      exact ⟨List.not_mem_nil, fun _ member => absurd member List.not_mem_nil⟩
  have joined : ∀ char ∈ joinLabels parts isRooted, char.toNat < 0x80 := by
    intro char member
    by_cases dot : char = '.'
    · rw [dot]
      decide
    · obtain ⟨part, among, within⟩ := (Text.mem_intercalate_iff dot _).mp member
      exact (pieces part among).2 char within
  have parted : Text.splitOn '.' (joinLabels parts isRooted) =
      parts ++ if isRooted then [[]] else [] :=
    Text.splitOn_intercalate (fun none => given (List.append_eq_nil_iff.mp none).1)
      fun part member => (pieces part member).1
  unfold labels
  simp only [map_dots_of_plain joined, parted]
  -- Only the empty label behind a last dot is empty.
  cases isRooted with
  | false =>
      have several : parts ≠ [[]] := by
        rintro rfl
        exact (written [] List.mem_cons_self).filled rfl
      have unrooted : parts.getLast? ≠ some [] := fun last =>
        (written [] (List.mem_of_getLast? last)).filled rfl
      simp [several, unrooted]
  | true =>
      simp [given]

theorem exists_shownName (done : encodedName name = .ok encoded) :
    ∃ shown, shownName encoded = .ok shown := by
  unfold encodedName at done
  obtain ⟨⟨parts, isRooted⟩, parted, done⟩ := bind_eq_ok done
  obtain ⟨others, made, done⟩ := bind_eq_ok done
  obtain ⟨given, among⟩ := of_labels parted
  have written : ∀ other ∈ others, IsWritten other := by
    intro other member
    obtain ⟨part, there, own⟩ := exists_of_mem_mapM made member
    exact isWritten_of_encodedLabel (Text.mark_not_mem_of_mem_splitOn (among part there)) own
  have some_given : others ≠ [] := by
    rintro rfl
    have none := mapM_eq_ok_iff.mp made
    rw [List.forall₂_nil_right_iff] at none
    exact given none
  obtain ⟨shown, known⟩ := exists_mapM_eq_ok fun other member =>
    (exists_of_mem_mapM made member).elim fun _ own => exists_shownLabel own.2
  refine ⟨joinLabels shown isRooted, ?_⟩
  rw [eq_of_guarded done, shownName, labels_joinLabels isRooted some_given written]
  change (others.mapM shownLabel >>= _) = _
  rw [known]
  rfl

end Scep.Idn
