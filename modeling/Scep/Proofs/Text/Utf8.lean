import Scep.Text.Utf8

/-!
Reading back what is written in UTF-8.

The machine takes one octet at a time.  Between two characters it has nothing
pending, so the octets of a character can be followed from there, by their number.
-/

namespace Scep.Text.Utf8

/-! ### First octets -/

theorem first_ascii {octet : Nat} (ascii : octet < 0x80) :
    first octet = .complete (Char.ofNat octet) := by
  simp only [first, if_pos ascii]

private theorem first_two {octet : Nat} (low : 0xC2 ≤ octet) (high : octet < 0xE0) :
    first octet = .begun ⟨octet - 0xC0, 1, 0x80, 0xBF⟩ := by
  simp only [first, if_neg (show ¬octet < 0x80 by omega), if_neg (show ¬octet < 0xC2 by omega),
    if_pos high]

/-- Of the octets that begin three, two leave out part of the range of the next:
overlong forms and surrogates. -/
theorem first_three (octet next : Nat) (low : 0xE0 ≤ octet) (high : octet < 0xF0)
    (tail : 0x80 ≤ next ∧ next ≤ 0xBF) (long : octet = 0xE0 → 0xA0 ≤ next)
    (scalar : octet = 0xED → next ≤ 0x9F) :
    ∃ least most, first octet = .begun ⟨octet - 0xE0, 2, least, most⟩ ∧
      least ≤ next ∧ next ≤ most := by
  unfold first
  rw [if_neg (show ¬octet < 0x80 by omega), if_neg (show ¬octet < 0xC2 by omega),
    if_neg (show ¬octet < 0xE0 by omega)]
  by_cases least : octet = 0xE0
  · rw [if_pos least]
    exact ⟨0xA0, 0xBF, by rw [least], long least, tail.2⟩
  · rw [if_neg least]
    by_cases surrogate : octet = 0xED
    · rw [if_pos surrogate]
      exact ⟨0x80, 0x9F, by rw [surrogate], tail.1, scalar surrogate⟩
    · rw [if_neg surrogate, if_pos high]
      exact ⟨0x80, 0xBF, rfl, tail⟩

/-- Of the octets that begin four, two leave out part of the range of the next:
overlong forms and what is above the last scalar value. -/
theorem first_four (octet next : Nat) (low : 0xF0 ≤ octet) (high : octet ≤ 0xF4)
    (tail : 0x80 ≤ next ∧ next ≤ 0xBF) (long : octet = 0xF0 → 0x90 ≤ next)
    (scalar : octet = 0xF4 → next ≤ 0x8F) :
    ∃ least most, first octet = .begun ⟨octet - 0xF0, 3, least, most⟩ ∧
      least ≤ next ∧ next ≤ most := by
  unfold first
  rw [if_neg (show ¬octet < 0x80 by omega), if_neg (show ¬octet < 0xC2 by omega),
    if_neg (show ¬octet < 0xE0 by omega), if_neg (show ¬octet = 0xE0 by omega),
    if_neg (show ¬octet = 0xED by omega), if_neg (show ¬octet < 0xF0 by omega)]
  by_cases least : octet = 0xF0
  · rw [if_pos least]
    exact ⟨0x90, 0xBF, by rw [least], long least, tail.2⟩
  · rw [if_neg least]
    by_cases last : octet = 0xF4
    · rw [if_neg (show ¬octet < 0xF4 by omega), if_pos last]
      exact ⟨0x80, 0x8F, by rw [last], tail.1, scalar last⟩
    · rw [if_pos (show octet < 0xF4 by omega)]
      exact ⟨0x80, 0xBF, rfl, tail⟩

/-! ### Further octets -/

private theorem Pending.next_last {bits low high octet : Nat}
    (within : low ≤ octet ∧ octet ≤ high) :
    (Pending.mk bits 1 low high).next octet =
      .complete (Char.ofNat (bits * 64 + (octet - 0x80))) := by
  simp only [Pending.next, if_pos within, Nat.le_refl, if_true]

private theorem Pending.next_more {bits owed low high octet : Nat}
    (within : low ≤ octet ∧ octet ≤ high) :
    (Pending.mk bits (owed + 2) low high).next octet =
      .begun ⟨bits * 64 + (octet - 0x80), owed + 1, 0x80, 0xBF⟩ := by
  simp only [Pending.next, if_pos within, if_neg (show ¬owed + 2 ≤ 1 by omega)]
  rfl

/-! ### The machine -/

variable {done : List Char} {pending : Pending} {octet : UInt8}

theorem Decoder.step_first_complete {char : Char} (completes : first octet.toNat = .complete char) :
    Decoder.step ⟨done, none⟩ octet = ⟨char :: done, none⟩ := by
  simp only [Decoder.step, Decoder.begin, completes]

theorem Decoder.step_first_begun (begins : first octet.toNat = .begun pending) :
    Decoder.step ⟨done, none⟩ octet = ⟨done, some pending⟩ := by
  simp only [Decoder.step, Decoder.begin, begins]

private theorem Decoder.step_next_complete {char : Char}
    (completes : pending.next octet.toNat = .complete char) :
    Decoder.step ⟨done, some pending⟩ octet = ⟨char :: done, none⟩ := by
  simp only [Decoder.step, completes]

theorem Decoder.step_next_begun {later : Pending}
    (continues : pending.next octet.toNat = .begun later) :
    Decoder.step ⟨done, some pending⟩ octet = ⟨done, some later⟩ := by
  simp only [Decoder.step, continues]

/-! ### Characters -/

theorem toNat_ofNat_of_lt {value : Nat} (small : value < 256) :
    (UInt8.ofNat value).toNat = value := by
  rw [UInt8.toNat_ofNat']
  exact Nat.mod_eq_of_lt small

inductive Spelled (char : Char) : List UInt8 → Prop where
  | one {octet : UInt8} (whole : first octet.toNat = .complete char) : Spelled char [octet]
  | two {head last : UInt8} (pending : Pending) (begins : first head.toNat = .begun pending)
      (completes : pending.next last.toNat = .complete char) : Spelled char [head, last]
  | three {head second last : UInt8} (pending later : Pending)
      (begins : first head.toNat = .begun pending)
      (continues : pending.next second.toNat = .begun later)
      (completes : later.next last.toNat = .complete char) : Spelled char [head, second, last]
  | four {head second third last : UInt8} (pending later latest : Pending)
      (begins : first head.toNat = .begun pending)
      (continues : pending.next second.toNat = .begun later)
      (goesOn : later.next third.toNat = .begun latest)
      (completes : latest.next last.toNat = .complete char) :
      Spelled char [head, second, third, last]

theorem spelled_encodeChar (char : Char) : Spelled char (String.utf8EncodeChar char) := by
  have scalar : char.val.toNat < 0xD800 ∨
      0xDFFF < char.val.toNat ∧ char.val.toNat < 0x110000 := char.valid
  have same : ∀ value, value = char.val.toNat →
      Reading.complete (Char.ofNat value) = .complete char := by
    intro value equal
    rw [equal]
    exact congrArg Reading.complete (Char.ofNat_toNat char)
  simp only [String.utf8EncodeChar]
  generalize char.val.toNat = value at scalar same ⊢
  by_cases one : value ≤ 0x7F
  · rw [if_pos one]
    refine .one ?_
    rw [toNat_ofNat_of_lt (by omega), first_ascii (by omega)]
    exact same _ rfl
  rw [if_neg one]
  by_cases two : value ≤ 0x7FF
  · rw [if_pos two]
    refine .two ⟨value / 64, 1, 0x80, 0xBF⟩ ?_ ?_
    · rw [toNat_ofNat_of_lt (by omega), first_two (by omega) (by omega)]
      simp only [Reading.begun.injEq, Pending.mk.injEq, and_true]
      omega
    · rw [toNat_ofNat_of_lt (by omega), Pending.next_last (by omega)]
      exact same _ (by omega)
  rw [if_neg two]
  by_cases three : value ≤ 0xFFFF
  · rw [if_pos three]
    obtain ⟨least, most, begins, within⟩ :=
      first_three (value / 4096 % 0x10 + 0xE0) (value / 64 % 0x40 + 0x80)
        (by omega) (by omega) (by omega) (by omega) (by omega)
    refine .three ⟨value / 4096 % 0x10 + 0xE0 - 0xE0, 2, least, most⟩
      ⟨value / 64, 1, 0x80, 0xBF⟩ ?_ ?_ ?_
    · rw [toNat_ofNat_of_lt (by omega)]
      exact begins
    · rw [toNat_ofNat_of_lt (by omega), Pending.next_more within]
      simp only [Reading.begun.injEq, Pending.mk.injEq, and_true]
      omega
    · rw [toNat_ofNat_of_lt (by omega), Pending.next_last (by omega)]
      exact same _ (by omega)
  · rw [if_neg three]
    obtain ⟨least, most, begins, within⟩ :=
      first_four (value / 262144 % 0x08 + 0xF0) (value / 4096 % 0x40 + 0x80)
        (by omega) (by omega) (by omega) (by omega) (by omega)
    refine .four ⟨value / 262144 % 0x08 + 0xF0 - 0xF0, 3, least, most⟩
      ⟨value / 4096, 2, 0x80, 0xBF⟩ ⟨value / 64, 1, 0x80, 0xBF⟩ ?_ ?_ ?_ ?_
    · rw [toNat_ofNat_of_lt (by omega)]
      exact begins
    · rw [toNat_ofNat_of_lt (by omega), Pending.next_more within]
      simp only [Reading.begun.injEq, Pending.mk.injEq, and_true]
      omega
    · rw [toNat_ofNat_of_lt (by omega), Pending.next_more (by omega)]
      simp only [Reading.begun.injEq, Pending.mk.injEq, and_true]
      omega
    · rw [toNat_ofNat_of_lt (by omega), Pending.next_last (by omega)]
      exact same _ (by omega)

theorem Spelled.foldl_step {char : Char} {octets : List UInt8} (spelled : Spelled char octets)
    (done : List Char) : octets.foldl Decoder.step ⟨done, none⟩ = ⟨char :: done, none⟩ := by
  cases spelled with
  | one whole =>
      simp only [List.foldl_cons, List.foldl_nil, Decoder.step_first_complete whole]
  | two pending begins completes =>
      simp only [List.foldl_cons, List.foldl_nil, Decoder.step_first_begun begins,
        Decoder.step_next_complete completes]
  | three pending later begins continues completes =>
      simp only [List.foldl_cons, List.foldl_nil, Decoder.step_first_begun begins,
        Decoder.step_next_begun continues, Decoder.step_next_complete completes]
  | four pending later latest begins continues goesOn completes =>
      simp only [List.foldl_cons, List.foldl_nil, Decoder.step_first_begun begins,
        Decoder.step_next_begun continues, Decoder.step_next_begun goesOn,
        Decoder.step_next_complete completes]

/-! ### Texts of ASCII -/

theorem encodeChar_ascii {char : Char} (ascii : char.toNat < 0x80) :
    String.utf8EncodeChar char = [UInt8.ofNat char.toNat] := by
  unfold String.utf8EncodeChar
  exact if_pos (Nat.le_of_lt_succ ascii)

theorem map_ofNat_encode {text : List Char} (ascii : ∀ char ∈ text, char.toNat < 0x80) :
    (encode text).map (fun octet => Char.ofNat octet.toNat) = text := by
  induction text with
  | nil => rfl
  | cons char rest ih =>
      have here : char.toNat < 0x80 := ascii char List.mem_cons_self
      have there := ih fun other member => ascii other (List.mem_cons_of_mem char member)
      unfold encode at there ⊢
      rw [List.flatMap_cons, encodeChar_ascii here, List.map_append, there, List.map_singleton,
        toNat_ofNat_of_lt (by omega), Char.ofNat_toNat, List.singleton_append]

end Scep.Text.Utf8
