import Scep.Proofs.Text.Search

/-!
Texts of which only the first octets are left.

The cut may fall inside a character.  Reading the octets that are left gives the
characters that are whole, and one replacement for the character that is not.
-/

namespace Scep.Text.Utf8

/-! ### Characters that are whole -/

/-- The octets of a text have the end of a character at a place. -/
def IsBoundary (text : List Char) (place : Nat) : Prop :=
  ∃ start, start <+: text ∧ (encode start).length = place

/-- The longest start of a text for which a limit of octets leaves room. -/
structure IsLongest (limit : Nat) (text kept : List Char) : Prop where
  start : kept <+: text
  fits : (encode kept).length ≤ limit
  longest : ∀ other, other <+: text → (encode other).length ≤ limit → other <+: kept

variable {text kept other : List Char} {limit : Nat} {char : Char}

private theorem length_encode_le_of_prefix (starts : other <+: text) :
    (encode other).length ≤ (encode text).length := by
  obtain ⟨rest, rfl⟩ := starts
  rw [encode_append, List.length_append]
  exact Nat.le_add_right _ _

private theorem length_le_encode (text : List Char) : text.length ≤ (encode text).length := by
  induction text with
  | nil => exact Nat.le_refl 0
  | cons char text ih =>
      obtain ⟨head, tail, octets, _⟩ := encodeChar_eq_cons char
      rw [encode_cons, octets, List.length_append, List.length_cons, List.length_cons]
      omega

namespace IsLongest

theorem unique (first : IsLongest limit text kept) (second : IsLongest limit text other) :
    kept = other :=
  (second.longest kept first.start first.fits).eq_of_length_le
    (first.longest other second.start second.fits).length_le

private theorem of_short (short : (encode text).length ≤ limit) : IsLongest limit text text :=
  ⟨List.prefix_refl text, short, fun _ starts _ => starts⟩

private theorem cons (first : IsLongest (limit - (String.utf8EncodeChar char).length) text kept)
    (room : (String.utf8EncodeChar char).length ≤ limit) :
    IsLongest limit (char :: text) (char :: kept) where
  start := List.cons_prefix_cons.mpr ⟨rfl, first.start⟩
  fits := by
    have rest := first.fits
    rw [encode_cons, List.length_append]
    omega
  longest := by
    intro other starts fits
    cases other with
    | nil => exact List.nil_prefix
    | cons next others =>
        obtain ⟨rfl, behind⟩ := List.cons_prefix_cons.mp starts
        rw [encode_cons, List.length_append] at fits
        exact List.cons_prefix_cons.mpr ⟨rfl, first.longest others behind (by omega)⟩

private theorem nil (tight : limit < (String.utf8EncodeChar char).length) :
    IsLongest limit (char :: text) [] where
  start := List.nil_prefix
  fits := Nat.zero_le limit
  longest := by
    intro other starts fits
    cases other with
    | nil => exact List.nil_prefix
    | cons next others =>
        obtain ⟨rfl, _⟩ := List.cons_prefix_cons.mp starts
        rw [encode_cons, List.length_append] at fits
        omega

theorem of_split {before after : List Char} (fits : (encode before).length ≤ limit)
    (beyond : limit < (encode (before ++ [char])).length) :
    IsLongest limit (before ++ char :: after) before where
  start := List.prefix_append before _
  fits := fits
  longest := by
    intro other starts within
    have through : before ++ [char] <+: before ++ char :: after :=
      List.prefix_append_right_inj before |>.mpr (List.cons_prefix_cons.mpr ⟨rfl, List.nil_prefix⟩)
    rcases List.prefix_or_prefix_of_prefix starts through with less | more
    · rcases List.prefix_concat_iff.mp less with rfl | short
      · omega
      · exact short
    · have longer := length_encode_le_of_prefix more
      omega

theorem isBoundary_iff (first : IsLongest limit text kept) :
    IsBoundary text limit ↔ (encode kept).length = limit := by
  constructor
  · rintro ⟨start, starts, size⟩
    have within := length_encode_le_of_prefix (first.longest start starts (Nat.le_of_eq size))
    have fits := first.fits
    omega
  · intro size
    exact ⟨kept, first.start, size⟩

end IsLongest

/-! ### Characters that are cut -/

/-- Some octets of a character, but not all of them. -/
def IsCut (octets : List UInt8) : Prop :=
  ∃ char count, 0 < count ∧ count < (String.utf8EncodeChar char).length ∧
    octets = (String.utf8EncodeChar char).take count

private theorem exists_take_encode (text : List Char) (limit : Nat) :
    ∃ kept part, IsLongest limit text kept ∧ (encode text).take limit = encode kept ++ part ∧
      (part = [] ∨ IsCut part) := by
  induction text generalizing limit with
  | nil => exact ⟨[], [], .of_short (Nat.zero_le limit), List.take_nil, Or.inl rfl⟩
  | cons char text ih =>
      by_cases room : (String.utf8EncodeChar char).length ≤ limit
      · obtain ⟨kept, part, first, left, cut⟩ := ih (limit - (String.utf8EncodeChar char).length)
        refine ⟨char :: kept, part, first.cons room, ?_, cut⟩
        rw [encode_cons, encode_cons, List.take_append, List.take_of_length_le room, left,
          List.append_assoc]
      · have tight : limit < (String.utf8EncodeChar char).length := Nat.not_le.mp room
        refine ⟨[], (String.utf8EncodeChar char).take limit, .nil tight, ?_, ?_⟩
        · rw [encode_cons, List.take_append_of_le_length (Nat.le_of_lt tight)]
          rfl
        · rcases Nat.eq_zero_or_pos limit with rfl | some
          · exact Or.inl List.take_zero
          · exact Or.inr ⟨char, limit, some, tight, rfl⟩

private theorem Spells.foldl_step_take {pending : Option Pending} {octets : List UInt8}
    (spells : Spells char pending octets) (done : List Char) {count : Nat} (some : 0 < count)
    (part : count < octets.length) :
    ∃ later, (octets.take count).foldl Decoder.step ⟨done, pending⟩ =
      ⟨done, Option.some later⟩ := by
  -- Along the octets that spell the character: its last one is not among those taken.
  induction spells generalizing count with
  | last _ => exact absurd part (Nat.not_lt.mpr some)
  | @more pending later octet octets continues tail ih =>
      have begun : Decoder.step ⟨done, pending⟩ octet = ⟨done, Option.some later⟩ := by
        cases pending with
        | none => exact Decoder.step_first_begun continues
        | some held => exact Decoder.step_next_begun continues
      obtain ⟨fewer, rfl⟩ := Nat.exists_eq_succ_of_ne_zero (Nat.ne_of_gt some)
      rw [List.take_succ_cons, List.foldl_cons, begun]
      rcases Nat.eq_zero_or_pos fewer with rfl | others
      · exact ⟨later, rfl⟩
      · exact ih others (Nat.lt_of_succ_lt_succ part)

private theorem decodeLossy_of_isCut {part : List UInt8} (cut : IsCut part) (kept : List Char) :
    decodeLossy (encode kept ++ part) = kept ++ [replacement] := by
  obtain ⟨char, count, some, fewer, rfl⟩ := cut
  obtain ⟨later, read⟩ :=
    (spelled_encodeChar char).spells.foldl_step_take (kept.reverse ++ []) some fewer
  rw [decodeLossy, Decoder.start, List.foldl_append, foldl_step_encode, read, Decoder.finish,
    Decoder.close, List.append_nil, List.reverse_cons, List.reverse_reverse]

/-- What is read of the first octets of a text: the characters that are whole, and
a replacement if the limit falls inside the next one. -/
inductive Truncated (limit : Nat) (text : List Char) : List Char → Prop where
  | whole {kept : List Char} (first : IsLongest limit text kept)
      (ends : (encode text).length ≤ limit ∨ IsBoundary text limit) : Truncated limit text kept
  | cut {kept : List Char} (first : IsLongest limit text kept)
      (beyond : limit < (encode text).length) (inside : ¬IsBoundary text limit) :
      Truncated limit text (kept ++ [replacement])

theorem truncated_decodeLossy_take (text : List Char) (limit : Nat) :
    Truncated limit text (decodeLossy ((encode text).take limit)) := by
  obtain ⟨kept, part, first, left, cut⟩ := exists_take_encode text limit
  have size : min limit (encode text).length = (encode kept).length + part.length := by
    rw [← List.length_take, left, List.length_append]
  -- Of the octets that are left, none remains for a part if the limit is no place to cut.
  by_cases ends : (encode text).length ≤ limit ∨ IsBoundary text limit
  · have complete : part = [] := by
      rcases ends with short | boundary
      · obtain rfl := first.unique (.of_short short)
        exact List.eq_nil_of_length_eq_zero (by omega)
      · have full := first.isBoundary_iff.mp boundary
        exact List.eq_nil_of_length_eq_zero (by omega)
    rw [left, complete, List.append_nil, decodeLossy_encode]
    exact .whole first ends
  · obtain ⟨long, inside⟩ := not_or.mp ends
    rcases cut with rfl | cut
    · rw [List.length_nil] at size
      exact absurd (first.isBoundary_iff.mpr (by omega)) inside
    · rw [left, decodeLossy_of_isCut cut]
      exact .cut first (Nat.not_le.mp long) inside

namespace Truncated

variable {read : List Char}

theorem eq_of_short (truncated : Truncated limit text read)
    (short : (encode text).length ≤ limit) : read = text := by
  cases truncated with
  | whole first _ => exact first.unique (.of_short short)
  | cut _ beyond _ => exact absurd short (Nat.not_le.mpr beyond)

theorem length_le (truncated : Truncated limit text read) : read.length ≤ limit := by
  cases truncated with
  | whole first _ => exact Nat.le_trans (length_le_encode read) first.fits
  | @cut kept first _ inside =>
      have less : (encode kept).length ≠ limit := fun full => inside (first.isBoundary_iff.mpr full)
      have fits := first.fits
      have short := length_le_encode kept
      rw [List.length_append, List.length_singleton]
      omega

theorem own_or_last (truncated : Truncated limit text read) {place : Nat}
    (found : read[place]? = some replacement) :
    text[place]? = some replacement ∨
      (place + 1 = read.length ∧ limit < (encode text).length ∧ ¬IsBoundary text limit) := by
  have own : ∀ {kept : List Char}, kept <+: text → place < kept.length →
      kept[place]? = text[place]? := by
    rintro kept ⟨rest, rfl⟩ within
    exact (List.getElem?_append_left within).symm
  cases truncated with
  | whole first _ =>
      obtain ⟨within, _⟩ := List.getElem?_eq_some_iff.mp found
      exact Or.inl ((own first.start within).symm.trans found)
  | @cut kept first beyond inside =>
      obtain ⟨within, _⟩ := List.getElem?_eq_some_iff.mp found
      by_cases before : place < kept.length
      · rw [List.getElem?_append_left before] at found
        exact Or.inl ((own first.start before).symm.trans found)
      · rw [List.length_append, List.length_singleton] at within ⊢
        exact Or.inr ⟨by omega, beyond, inside⟩

end Truncated

end Scep.Text.Utf8
