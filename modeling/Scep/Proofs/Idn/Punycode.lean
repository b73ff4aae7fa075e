import Scep.Proofs.Idn.Name

/-!
Labels that are encoded and decoded again.

A writer passes over a label once for every code point that it inserts, and counts
the places on the way.  A reader of all that was written so far has in place what
the writer has passed, and the distance that the writer has counted leads it to the
code point and the place where the writer is.  So what the writer inserts next, the
reader inserts as well.
-/

namespace Scep.Idn.Punycode

/-! ### One distance -/

private theorem digit?_figure : ∀ digit < 36, digit? (figure digit) = some digit := by
  decide

private theorem isScalar_toNat (char : Char) : isScalar char.toNat = true := by
  have valid : char.toNat < 0xD800 ∨ 0xDFFF < char.toNat ∧ char.toNat < 0x110000 := char.valid
  simpa [isScalar] using valid

namespace Reader

def insert? (reader : Reader) (distance : Nat) : Option Reader :=
  let places := reader.label.length + 1
  let index := reader.position + distance
  let codepoint := reader.codepoint + index / places
  let position := index % places
  if isScalar codepoint then
    some {
      value := 0
      weight := 1
      place := 36
      bias := adapt distance places reader.isFirst
      codepoint
      position := position + 1
      isFirst := false
      label := reader.label.take position ++ Char.ofNat codepoint :: reader.label.drop position }
  else none

def inserted (reader : Reader) (distance position : Nat) (char : Char) : Reader where
  value := 0
  weight := 1
  place := 36
  bias := adapt distance (reader.label.length + 1) reader.isFirst
  codepoint := char.toNat
  position := position + 1
  isFirst := false
  label := reader.label.take position ++ char :: reader.label.drop position

private theorem insert?_of_index {reader : Reader} {distance rounds position : Nat} {char : Char}
    (index : reader.position + distance = rounds * (reader.label.length + 1) + position)
    (room : position ≤ reader.label.length) (codepoint : reader.codepoint + rounds = char.toNat) :
    reader.insert? distance = some (reader.inserted distance position char) := by
  have divided : (reader.position + distance) / (reader.label.length + 1) = rounds := by
    rw [index, Nat.mul_comm, Nat.mul_add_div (Nat.succ_pos _),
      Nat.div_eq_of_lt (Nat.lt_succ_of_le room), Nat.add_zero]
  have remains : (reader.position + distance) % (reader.label.length + 1) = position := by
    rw [index, Nat.mul_comm, Nat.mul_add_mod, Nat.mod_eq_of_lt (Nat.lt_succ_of_le room)]
  unfold insert?
  simp only [divided, remains, codepoint, if_pos (isScalar_toNat char), Char.ofNat_toNat]
  rfl

private theorem take_of_lt {reader : Reader} {digit : Nat}
    (below : digit < threshold reader.place reader.bias) :
    reader.take digit = reader.insert? (reader.value + digit * reader.weight) :=
  if_neg (Nat.not_le.mpr below)

private theorem take_of_le {reader : Reader} {digit : Nat}
    (least : threshold reader.place reader.bias ≤ digit) :
    reader.take digit = some { reader with
      value := reader.value + digit * reader.weight
      weight := reader.weight * (36 - threshold reader.place reader.bias)
      place := reader.place + 36 } :=
  if_pos least

private theorem value_of_digits {least distance : Nat} (more : least ≤ distance)
    (value weight : Nat) :
    value + (least + (distance - least) % (36 - least)) * weight +
      (distance - least) / (36 - least) * (weight * (36 - least)) = value + distance * weight := by
  have split := Nat.mod_add_div' (distance - least) (36 - least)
  have whole : least + (distance - least) % (36 - least) +
      (distance - least) / (36 - least) * (36 - least) = distance := by omega
  calc
    _ = value + (least + (distance - least) % (36 - least) +
        (distance - least) / (36 - least) * (36 - least)) * weight := by ring
    _ = value + distance * weight := by rw [whole]

private theorem read_cons {reader next : Reader} {digit : Nat} (small : digit < 36)
    (taken : reader.take digit = some next) (rest : List Char) :
    reader.read (figure digit :: rest) = next.read rest := by
  simp only [read, digit?_figure digit small, taken]

private theorem read_digits {reader next : Reader} (distance : Nat)
    (inserted : reader.insert? (reader.value + distance * reader.weight) = some next)
    (rest : List Char) :
    reader.read (digits reader.bias reader.place distance ++ rest) = next.read rest := by
  induction distance using Nat.strong_induction_on generalizing reader with
  | _ distance ih =>
      obtain ⟨positive, most⟩ := threshold_bounds reader.place reader.bias
      rw [digits]
      by_cases last : distance < threshold reader.place reader.bias
      · simp only [if_pos last]
        exact read_cons (by omega) ((take_of_lt last).trans inserted) rest
      · have small : (distance - threshold reader.place reader.bias) %
            (36 - threshold reader.place reader.bias) < 36 - threshold reader.place reader.bias :=
          Nat.mod_lt _ (by omega)
        have shorter := Nat.div_le_self (distance - threshold reader.place reader.bias)
          (36 - threshold reader.place reader.bias)
        have value := value_of_digits (Nat.not_lt.mp last) reader.value reader.weight
        simp only [if_neg last, List.cons_append]
        rw [read_cons (by omega) (take_of_le (Nat.le_add_right _ _))]
        -- Only its own digits distinguish the reader inside a distance.
        exact ih _ (by omega) ((congrArg reader.insert? value).trans inserted)

end Reader

/-! ### A writer and its reader -/

/-- The characters of a text before a code point. -/
def below (codepoint : Nat) (text : List Char) : List Char :=
  text.filter fun char => char.toNat < codepoint

theorem below_append (codepoint : Nat) (first second : List Char) :
    below codepoint (first ++ second) = below codepoint first ++ below codepoint second :=
  List.filter_append first second

theorem below_cons_of_lt {char : Char} {codepoint : Nat} (before : char.toNat < codepoint)
    (rest : List Char) : below codepoint (char :: rest) = char :: below codepoint rest :=
  List.filter_cons_of_pos (by simpa using before)

theorem below_cons_of_le {char : Char} {codepoint : Nat} (after : codepoint ≤ char.toNat)
    (rest : List Char) : below codepoint (char :: rest) = below codepoint rest :=
  List.filter_cons_of_neg (by simpa using after)

/-- A writer has passed a part of a label for the insertion of a code point, and a
reader has taken all that it has written.  In place is what comes before the code
point, and the code point itself as far as it was passed.  The distances so far are
those of the rounds since the last insertion and of what was passed in this one. -/
structure Follows (basic : List Char) (codepoint : Nat) (passed left : List Char)
    (writer : Writer) (reader : Reader) : Prop where
  read : ∀ rest, (Reader.start basic).read (writer.done.reverse ++ rest) = reader.read rest
  value : reader.value = 0
  weight : reader.weight = 1
  place : reader.place = 36
  bias : reader.bias = writer.bias
  placed : writer.placed = reader.label.length
  grown : basic.length ≤ writer.placed
  isFirst : reader.isFirst = (writer.placed == basic.length)
  label : reader.label = below (codepoint + 1) passed ++ below codepoint left
  reached : reader.codepoint ≤ codepoint
  distance : reader.position + writer.distance =
    (codepoint - reader.codepoint) * (reader.label.length + 1) +
      (below (codepoint + 1) passed).length

variable {basic passed left label : List Char} {codepoint : Nat} {writer : Writer}
  {reader : Reader}

private theorem Follows.start (label : List Char) :
    Follows (below 0x80 label) 0x80 [] label ⟨0, 72, (below 0x80 label).length, []⟩
      (Reader.start (below 0x80 label)) where
  read _ := rfl
  value := rfl
  weight := rfl
  place := rfl
  bias := rfl
  placed := rfl
  grown := Nat.le_refl _
  isFirst := (beq_self_eq_true _).symm
  label := rfl
  reached := Nat.le_refl _
  distance := by simp [Reader.start, below]

/-- What a writer inserts, its reader inserts in the same place. -/
theorem Follows.insert {char : Char}
    (follows : Follows basic char.toNat passed (char :: left) writer reader) :
    ∃ next, Follows basic char.toNat (passed ++ [char]) left
      { distance := 0
        bias := adapt writer.distance (writer.placed + 1) (writer.placed == basic.length)
        placed := writer.placed + 1
        done := (digits writer.bias 36 writer.distance).reverse ++ writer.done } next := by
  have whole := follows.label
  rw [below_cons_of_le (Nat.le_refl _)] at whole
  have room : (below (char.toNat + 1) passed).length ≤ reader.label.length := by
    rw [whole, List.length_append]
    exact Nat.le_add_right _ _
  have inserted := Reader.insert?_of_index follows.distance room
    (Nat.add_sub_cancel' follows.reached)
  have placed := follows.placed
  have grown := follows.grown
  have own : below (char.toNat + 1) (passed ++ [char]) = below (char.toNat + 1) passed ++ [char] := by
    rw [below_append, below_cons_of_lt (Nat.lt_succ_self _)]
    rfl
  have longer : (reader.inserted writer.distance (below (char.toNat + 1) passed).length
      char).label = below (char.toNat + 1) passed ++ char :: below char.toNat left := by
    rw [Reader.inserted, whole, List.take_left, List.drop_left]
  refine ⟨reader.inserted writer.distance (below (char.toNat + 1) passed).length char, ?_⟩
  constructor
  case read =>
    intro rest
    rw [List.reverse_append, List.reverse_reverse, List.append_assoc, follows.read, ← follows.bias,
      ← follows.place]
    refine Reader.read_digits writer.distance (Eq.trans ?_ inserted) rest
    rw [follows.value, follows.weight, Nat.zero_add, Nat.mul_one]
  case value => rfl
  case weight => rfl
  case place => rfl
  case bias => rw [Reader.inserted, follows.isFirst, placed]
  case placed =>
    rw [longer, placed, whole]
    simp only [List.length_append, List.length_cons]
    omega
  case grown => exact Nat.le_succ_of_le grown
  case isFirst =>
    symm
    rw [Reader.inserted, beq_eq_false_iff_ne]
    dsimp only
    omega
  case label => rw [longer, own, List.append_assoc, List.singleton_append]
  case reached => exact Nat.le_refl _
  case distance =>
    rw [own, List.length_append, Reader.inserted]
    simp

private theorem Follows.pass {char : Char}
    (follows : Follows basic codepoint passed (char :: left) writer reader) :
    ∃ next, Follows basic codepoint (passed ++ [char]) left
      (writer.pass basic.length codepoint char) next := by
  have label := follows.label
  have distance := follows.distance
  unfold Writer.pass
  -- A character before the code point is in place, and one after it is not yet.
  rcases Nat.lt_trichotomy char.toNat codepoint with before | same | after
  · rw [if_pos before]
    have own := below_cons_of_lt (Nat.lt_succ_of_lt before) []
    refine ⟨reader, { follows with label := ?_, distance := ?_ }⟩
    · rw [label, below_cons_of_lt before, below_append, own, List.append_assoc]
      rfl
    · have one : (below (codepoint + 1) [char]).length = 1 := congrArg List.length own
      rw [below_append, List.length_append, one]
      exact congrArg Nat.succ distance
  · subst same
    rw [if_neg (Nat.lt_irrefl _), if_pos rfl]
    exact follows.insert
  · rw [if_neg (Nat.lt_asymm after), if_neg (Nat.ne_of_gt after)]
    have none : below (codepoint + 1) (passed ++ [char]) = below (codepoint + 1) passed := by
      rw [below_append, below_cons_of_le after]
      exact List.append_nil _
    refine ⟨reader, { follows with label := ?_, distance := ?_ }⟩
    · rw [label, below_cons_of_le after.le, none]
    · rw [distance, none]

private theorem Follows.foldl_pass (follows : Follows basic codepoint passed left writer reader) :
    ∃ next, Follows basic codepoint (passed ++ left) []
      (left.foldl (Writer.pass basic.length codepoint) writer) next := by
  induction left generalizing passed writer reader with
  | nil =>
      rw [List.append_nil]
      exact ⟨reader, follows⟩
  | cons char rest ih =>
      obtain ⟨next, passing⟩ := follows.pass
      have passed := ih passing
      rwa [List.append_assoc] at passed

/-! ### All insertions -/

private theorem Follows.turn (follows : Follows basic codepoint label [] writer reader) :
    Follows basic (codepoint + 1) [] label { writer with distance := writer.distance + 1 }
      reader := by
  have whole : reader.label = below (codepoint + 1) label :=
    follows.label.trans (List.append_nil _)
  have reached := follows.reached
  refine { follows with label := whole, reached := Nat.le_succ_of_le reached, distance := ?_ }
  have rounds : codepoint + 1 - reader.codepoint = codepoint - reader.codepoint + 1 := by omega
  have one := follows.distance
  rw [← whole] at one
  rw [rounds, Nat.succ_mul, ← Nat.add_assoc, ← Nat.add_assoc, ← one]
  rfl

private theorem Follows.jump {next : Nat} (follows : Follows basic codepoint [] label writer reader)
    (later : codepoint ≤ next) (absent : ∀ char ∈ label, char.toNat < next → char.toNat < codepoint) :
    Follows basic next [] label { writer with
      distance := writer.distance + (next - codepoint) * (writer.placed + 1) } reader := by
  have same : below next label = below codepoint label :=
    List.filter_congr fun char member => by
      have before := absent char member
      rw [decide_eq_decide]
      omega
  have reached := follows.reached
  refine { follows with
    label := follows.label.trans same.symm, reached := reached.trans later, distance := ?_ }
  have rounds : next - reader.codepoint = codepoint - reader.codepoint + (next - codepoint) := by
    omega
  have sofar := follows.distance
  rw [rounds, Nat.add_mul, follows.placed, ← Nat.add_assoc, sofar]
  exact Nat.add_right_comm _ _ _

/-- A reader keeps up with all insertions of a writer, and in the end everything is
in place. -/
theorem Follows.insertAll {codepoints : List Nat}
    (follows : Follows basic codepoint [] label writer reader)
    (ascending : codepoints.Pairwise (· < ·)) (least : ∀ own ∈ codepoints, codepoint ≤ own)
    (all : ∀ char ∈ label, codepoint ≤ char.toNat → char.toNat ∈ codepoints) :
    ∃ last next, Follows basic last [] label
      (writer.insertAll label basic.length codepoint codepoints) next ∧ next.label = label := by
  induction codepoints generalizing codepoint writer reader with
  | nil =>
      have complete : below codepoint label = label :=
        List.filter_eq_self.mpr fun char member => by
          rw [decide_eq_true_eq]
          by_contra late
          cases all char member (Nat.not_lt.mp late)
      exact ⟨codepoint, reader, follows, follows.label.trans complete⟩
  | cons own rest ih =>
      obtain ⟨before, ascending⟩ := List.pairwise_cons.mp ascending
      -- Nothing of the label is between two insertions, so the jump leaves nothing out.
      have absent : ∀ char ∈ label, char.toNat < own → char.toNat < codepoint := by
        intro char member early
        by_contra late
        rcases List.mem_cons.mp (all char member (Nat.not_lt.mp late)) with same | later
        · omega
        · exact absurd (before _ later) (Nat.lt_asymm early)
      obtain ⟨next, passed⟩ := (follows.jump (least own List.mem_cons_self) absent).foldl_pass
      refine ih passed.turn ascending before fun char member late => ?_
      rcases List.mem_cons.mp (all char member
        ((least own List.mem_cons_self).trans (Nat.le_of_lt late))) with same | later
      · omega
      · exact later

/-! ### Whole labels -/

private theorem eraseReps_loop {codepoint : Nat} {codepoints : List Nat} (earlier : List Nat)
    (sorted : (codepoint :: codepoints).Pairwise (· ≤ ·)) :
    ∃ kept, List.eraseRepsBy.loop (· == ·) codepoint codepoints earlier =
        earlier.reverse ++ kept ∧
      kept.Pairwise (· < ·) ∧ ∀ own, own ∈ kept ↔ own ∈ codepoint :: codepoints := by
  induction codepoints generalizing codepoint earlier with
  | nil =>
      exact ⟨[codepoint], List.reverse_cons, List.pairwise_singleton _ _, fun _ => Iff.rfl⟩
  | cons next rest ih =>
      obtain ⟨least, sortedRest⟩ := List.pairwise_cons.mp sorted
      rw [List.eraseRepsBy.loop]
      by_cases same : codepoint = next
      · subst same
        rw [beq_self_eq_true]
        obtain ⟨kept, written, ascending, members⟩ := ih earlier sortedRest
        refine ⟨kept, written, ascending, fun own => (members own).trans ?_⟩
        simp
      · rw [beq_eq_false_iff_ne.mpr same]
        obtain ⟨kept, written, ascending, members⟩ := ih (codepoint :: earlier) sortedRest
        refine ⟨codepoint :: kept, ?_, List.pairwise_cons.mpr ⟨?_, ascending⟩, fun own => ?_⟩
        · rw [written, List.reverse_cons, List.append_assoc, List.singleton_append]
        · intro own member
          have first := least next List.mem_cons_self
          rcases List.mem_cons.mp ((members own).mp member) with rfl | later
          · omega
          · have after := (List.pairwise_cons.mp sortedRest).1 own later
            omega
        · rw [List.mem_cons, members, List.mem_cons (l := next :: rest)]

def insertions (label : List Char) : List Nat :=
  (((label.map Char.toNat).filter fun codepoint => 0x80 ≤ codepoint).mergeSort
    fun left right => left ≤ right).eraseReps

private theorem eraseReps_of_sorted {codepoints : List Nat} (sorted : codepoints.Pairwise (· ≤ ·)) :
    codepoints.eraseReps.Pairwise (· < ·) ∧
      ∀ own, own ∈ codepoints.eraseReps ↔ own ∈ codepoints := by
  cases codepoints with
  | nil => exact ⟨List.Pairwise.nil, fun _ => Iff.rfl⟩
  | cons first rest =>
      obtain ⟨kept, written, ascending, members⟩ := eraseReps_loop [] sorted
      have same : (first :: rest).eraseReps = kept := written
      rw [same]
      exact ⟨ascending, members⟩

private theorem insertions_ascending (label : List Char) : (insertions label).Pairwise (· < ·) ∧
    ∀ codepoint, codepoint ∈ insertions label ↔
      ∃ char ∈ label, char.toNat = codepoint ∧ 0x80 ≤ codepoint := by
  have sorted := @List.pairwise_mergeSort Nat (fun left right => left ≤ right)
    (fun first second third => by simpa using Nat.le_trans)
    (fun first second => by simpa using Nat.le_total first second)
    ((label.map Char.toNat).filter fun codepoint => 0x80 ≤ codepoint)
  obtain ⟨ascending, members⟩ := eraseReps_of_sorted (sorted.imp of_decide_eq_true)
  refine ⟨ascending, fun codepoint => (members codepoint).trans ?_⟩
  rw [List.mem_mergeSort, List.mem_filter, List.mem_map, decide_eq_true_eq]
  exact ⟨fun ⟨⟨char, member, same⟩, late⟩ => ⟨char, member, same, late⟩,
    fun ⟨char, member, same, late⟩ => ⟨⟨char, member, same⟩, late⟩⟩

def series (label : List Char) : List Char :=
  (Writer.insertAll label (below 0x80 label).length ⟨0, 72, (below 0x80 label).length, []⟩ 0x80
    (insertions label)).done.reverse

theorem encode_eq (label : List Char) : encode label =
    (if (below 0x80 label).isEmpty then [] else below 0x80 label ++ ['-']) ++ series label :=
  rfl

private theorem read_series (label : List Char) :
    (Reader.start (below 0x80 label)).read (series label) = some label := by
  obtain ⟨ascending, members⟩ := insertions_ascending label
  obtain ⟨last, next, follows, complete⟩ := (Follows.start label).insertAll ascending
    (fun own member => ((members own).mp member).choose_spec.2.2)
    fun char member late => (members _).mpr ⟨char, member, rfl, late⟩
  have ended := follows.read []
  rw [List.append_nil] at ended
  rw [series, ended, Reader.read, if_pos ⟨follows.weight, follows.place⟩, complete]

theorem exists_figure_of_mem_series {char : Char} (member : char ∈ series label) :
    ∃ digit < 36, char = figure digit :=
  (Writer.HasDigits.start _ _).insertAll label _ _ _ char (List.mem_reverse.mp member)

theorem figure_ne_hyphen : ∀ digit < 36, figure digit ≠ '-' := by
  decide

private theorem hyphen_not_mem_series (label : List Char) : '-' ∉ series label := by
  intro member
  obtain ⟨digit, small, same⟩ := exists_figure_of_mem_series member
  exact figure_ne_hyphen digit small same.symm

/-- What precedes the last hyphen are the characters in place, what follows it are
the digits. -/
theorem decode?_encode (label : List Char) : decode? (encode label) = some label := by
  have absent := hyphen_not_mem_series label
  rw [← read_series label, encode_eq, decode?]
  by_cases empty : below 0x80 label = []
  · simp only [empty, List.isEmpty_nil, if_true, List.nil_append,
      Text.takeWhile_reverse_of_not_mem absent, List.reverse_reverse, Nat.sub_self, Nat.zero_sub,
      List.take_zero]
  · have basic : (below 0x80 label ++ '-' :: series label).length - (series label).length - 1 =
        (below 0x80 label).length := by
      rw [List.length_append, List.length_cons]
      omega
    simp only [List.isEmpty_iff, empty, if_false, List.append_assoc, List.singleton_append,
      Text.takeWhile_reverse_after absent, List.reverse_reverse, basic, List.take_left]

theorem series_ne_nil {char : Char} (member : char ∈ label) (high : 0x80 ≤ char.toNat) :
    series label ≠ [] := by
  intro none
  have whole := read_series label
  rw [none, Reader.read, if_pos ⟨rfl, rfl⟩] at whole
  have small := (List.mem_filter.mp (Option.some.inj whole ▸ member)).2
  rw [decide_eq_true_eq] at small
  omega

end Scep.Idn.Punycode
