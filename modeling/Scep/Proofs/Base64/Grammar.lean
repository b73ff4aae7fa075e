import Mathlib
import Scep.Proofs.Base64

/-!
Which texts are base64, and for which octets.

A text is accepted exactly if it is data followed by so much padding as its
number of data characters allows.  The octets are cut from the bits of the data
in order, and bits that do not make up an octet are dropped.
-/

namespace Scep.Base64

/-! ### Data characters -/

def alphabet : List Char :=
  ['A', 'B', 'C', 'D', 'E', 'F', 'G', 'H', 'I', 'J', 'K', 'L', 'M', 'N', 'O', 'P',
    'Q', 'R', 'S', 'T', 'U', 'V', 'W', 'X', 'Y', 'Z',
    'a', 'b', 'c', 'd', 'e', 'f', 'g', 'h', 'i', 'j', 'k', 'l', 'm', 'n', 'o', 'p',
    'q', 'r', 's', 't', 'u', 'v', 'w', 'x', 'y', 'z',
    '0', '1', '2', '3', '4', '5', '6', '7', '8', '9', '-', '_']

/-- A character stands for its value, and three others stand for the last two. -/
def StandsFor (char : Char) (value : Nat) : Prop :=
  alphabet[value]? = some char ∨ value = 62 ∧ (char = '+' ∨ char = ' ') ∨ value = 63 ∧ char = '/'

instance (char : Char) (value : Nat) : Decidable (StandsFor char value) :=
  inferInstanceAs (Decidable (_ ∨ _ ∧ (_ ∨ _) ∨ _ ∧ _))

theorem toNat_lt_of_value? {char : Char} {value : Nat} (data : value? char = some value) :
    char.toNat < 0x80 := by
  unfold value? at data
  split at data
  · rename_i capital
    exact Nat.lt_of_le_of_lt capital.2 (by decide)
  · split at data
    · rename_i small
      exact Nat.lt_of_le_of_lt small.2 (by decide)
    · split at data
      · rename_i digit
        exact Nat.lt_of_le_of_lt digit.2 (by decide)
      · split at data
        · rename_i mark
          rcases mark with rfl | rfl | rfl <;> decide
        · split at data
          · rename_i mark
            rcases mark with rfl | rfl <;> decide
          · cases data

theorem standsFor_iff (char : Char) (value : Nat) :
    StandsFor char value ↔ value? char = some value := by
  constructor
  · have written : ∀ value < 64, alphabet[value]? = some (letter value) := by decide
    rintro (listed | ⟨rfl, rfl | rfl⟩ | ⟨rfl, rfl⟩)
    · obtain ⟨inside, _⟩ := List.getElem?_eq_some_iff.mp listed
      rw [written value inside] at listed
      rw [← Option.some.inj listed]
      exact value?_letter value inside
    · decide
    · decide
    · decide
  · have all : ∀ code < 0x80, ∀ value ∈ value? (Char.ofNat code),
        StandsFor (Char.ofNat code) value := by
      decide +kernel
    intro data
    have same := Char.ofNat_toNat char
    have stands := all char.toNat (toNat_lt_of_value? data) value
    rw [same] at stands
    exact stands data

private theorem value_lt_of_standsFor {char : Char} {value : Nat} (stands : StandsFor char value) :
    value < 64 := by
  rcases stands with listed | ⟨rfl, _⟩ | ⟨rfl, _⟩
  · exact (List.getElem?_eq_some_iff.mp listed).1
  · decide
  · decide

/-! ### Bits -/

def bits (width value : Nat) : List Bool := (List.range width).reverse.map value.testBit

/-- The bits of some octets in order. -/
def octetBits (octets : List UInt8) : List Bool := octets.flatMap fun octet => bits 8 octet.toNat

private theorem length_bits (width value : Nat) : (bits width value).length = width := by
  rw [bits, List.length_map, List.length_reverse, List.length_range]

private theorem bits_append (width : Nat) {low rest : Nat} (high : Nat) (small : low < 2 ^ rest) :
    bits width high ++ bits rest low = bits (width + rest) (2 ^ rest * high + low) := by
  have upper : ∀ place, (2 ^ rest * high + low).testBit (rest + place) = high.testBit place := by
    intro place
    rw [Nat.testBit_two_pow_mul_add high small, if_neg (by omega), Nat.add_sub_cancel_left]
  have lower : ∀ place ∈ (List.range rest).reverse,
      (2 ^ rest * high + low).testBit place = low.testBit place := by
    intro place member
    rw [List.mem_reverse, List.mem_range] at member
    rw [Nat.testBit_two_pow_mul_add high small, if_pos member]
  simp only [bits]
  rw [Nat.add_comm width rest, List.range_add, List.reverse_append, List.map_append,
    List.map_congr_left lower, ← List.map_reverse, List.map_map]
  simp only [Function.comp_def, upper]

private theorem bits_split (width rest : Nat) {value : Nat} (high : Nat) (small : value < 2 ^ 6)
    (fits : rest ≤ 6) :
    bits width high ++ bits 6 value =
      bits (width + (6 - rest)) (high * 2 ^ (6 - rest) + value / 2 ^ rest) ++
        bits rest (value % 2 ^ rest) := by
  have power : 2 ^ 6 = 2 ^ rest * 2 ^ (6 - rest) := by
    rw [← Nat.pow_add]
    congr 1
    omega
  rw [bits_append width high small,
    bits_append _ _ (Nat.mod_lt value (Nat.two_pow_pos rest)), Nat.mul_add, Nat.add_assoc (2 ^ rest * _),
    Nat.div_add_mod, power, Nat.mul_assoc, Nat.mul_comm (2 ^ (6 - rest)) high]
  congr 1
  omega

private theorem bits_injective {width first second : Nat} (firstSmall : first < 2 ^ width)
    (secondSmall : second < 2 ^ width) (same : bits width first = bits width second) :
    first = second := by
  apply Nat.eq_of_testBit_eq
  intro place
  by_cases inside : place < width
  · exact List.map_inj_left.mp same place (List.mem_reverse.mpr (List.mem_range.mpr inside))
  · have beyond : 2 ^ width ≤ 2 ^ place := Nat.pow_le_pow_right (by decide) (by omega)
    rw [Nat.testBit_lt_two_pow (by omega), Nat.testBit_lt_two_pow (by omega)]

private theorem octetBits_append (first second : List UInt8) :
    octetBits (first ++ second) = octetBits first ++ octetBits second :=
  List.flatMap_append

private theorem length_octetBits (octets : List UInt8) : (octetBits octets).length = 8 *
    octets.length := by
  induction octets with
  | nil => rfl
  | cons octet rest ih =>
      change (bits 8 octet.toNat ++ octetBits rest).length = _
      rw [List.length_append, length_bits, ih, List.length_cons]
      omega

private theorem octetBits_injective {first second : List UInt8}
    (same : octetBits first = octetBits second) : first = second := by
  induction first generalizing second with
  | nil =>
      have lengths := congrArg List.length same
      rw [length_octetBits, length_octetBits, List.length_nil] at lengths
      exact (List.length_eq_zero_iff.mp (by omega)).symm
  | cons octet rest ih =>
      cases second with
      | nil =>
          have lengths := congrArg List.length same
          rw [length_octetBits, length_octetBits, List.length_cons, List.length_nil] at lengths
          omega
      | cons other others =>
          change bits 8 octet.toNat ++ octetBits rest =
            bits 8 other.toNat ++ octetBits others at same
          obtain ⟨head, tail⟩ := List.append_inj same (by rw [length_bits, length_bits])
          have bytes := bits_injective octet.toNat_lt other.toNat_lt head
          rw [UInt8.toNat_inj.mp bytes, ih tail]

/-! ### Reading data -/

/-- What a reader knows that has read nothing but data: the octets so far and
the bits that are still to be placed make up the bits of the data. -/
structure Reader.HasRead (reader : Reader) (values : List Nat) : Prop where
  filled : reader.filled = values.length % 4
  pads : reader.pads = 0
  padding : reader.padding = false
  small : reader.bits < 2 ^ ((8 - 2 * reader.filled) % 8)
  bits : octetBits reader.done.reverse ++ Base64.bits ((8 - 2 * reader.filled) % 8) reader.bits =
    values.flatMap (Base64.bits 6)

private theorem Reader.hasRead_start : Reader.start.HasRead [] := ⟨rfl, rfl, rfl, by decide, rfl⟩

private theorem octetBits_concat (done : List UInt8) {value : Nat} (small : value < 256) :
    octetBits (UInt8.ofNat value :: done).reverse = octetBits done.reverse ++ bits 8 value := by
  have same : (UInt8.ofNat value).toNat = value := UInt8.toNat_ofNat_of_lt' small
  rw [List.reverse_cons, octetBits_append]
  change _ ++ (bits 8 (UInt8.ofNat value).toNat ++ []) = _
  rw [same, List.append_nil]

private theorem Reader.HasRead.take {reader : Reader} {values : List Nat} {value : Nat}
    (read : reader.HasRead values) (small : value < 64) :
    (reader.take value).HasRead (values ++ [value]) := by
  obtain ⟨filled, pads, padding, pending, known⟩ := read
  obtain ⟨place, left, counted, padded, count, done⟩ := reader
  dsimp only at filled pads padding pending known
  have all : (values ++ [value]).flatMap (Base64.bits 6) =
      octetBits done.reverse ++
        (Base64.bits ((8 - 2 * place) % 8) left ++ Base64.bits 6 value) := by
    rw [List.flatMap_append, List.flatMap_singleton, ← known, List.append_assoc]
  have longer : (values ++ [value]).length = values.length + 1 := by
    rw [List.length_append, List.length_singleton]
  have places : place = 0 ∨ place = 1 ∨ place = 2 ∨ place = 3 := by omega
  -- Each place has its own split of the six bits between two octets.
  rcases places with rfl | rfl | rfl | rfl
  · refine ⟨?_, rfl, padding, small, ?_⟩
    · simp only [Reader.take, longer]
      omega
    · rw [all]
      rfl
  · have bound : left < 64 := pending
    refine ⟨?_, rfl, padding, Nat.mod_lt value (by decide), ?_⟩
    · simp only [Reader.take, longer]
      omega
    · rw [all, bits_split 6 4 left small (by decide)]
      simp only [Reader.take]
      rw [octetBits_concat done (by omega), List.append_assoc]
      rfl
  · have bound : left < 16 := pending
    refine ⟨?_, rfl, padding, Nat.mod_lt value (by decide), ?_⟩
    · simp only [Reader.take, longer]
      omega
    · rw [all, bits_split 4 2 left small (by decide)]
      simp only [Reader.take]
      rw [octetBits_concat done (by omega), List.append_assoc]
      rfl
  · have bound : left < 4 := pending
    refine ⟨?_, rfl, padding, Nat.two_pow_pos _, ?_⟩
    · simp only [Reader.take, longer]
      omega
    · rw [all, bits_split 2 0 left small (by decide), Nat.pow_zero, Nat.div_one]
      simp only [Reader.take]
      rw [octetBits_concat done (by omega), List.append_assoc]
      rfl

private theorem Reader.HasRead.foldl {reader : Reader} {before values : List Nat}
    (read : reader.HasRead before) (small : ∀ value ∈ values, value < 64) :
    (values.foldl Reader.take reader).HasRead (before ++ values) := by
  induction values generalizing reader before with
  | nil =>
      rw [List.append_nil]
      exact read
  | cons value rest ih =>
      have next := ih (read.take (small value List.mem_cons_self))
        fun other member => small other (List.mem_cons_of_mem value member)
      rw [List.append_assoc, List.singleton_append] at next
      exact next

private theorem Reader.take_padding (reader : Reader) (value : Nat) :
    (reader.take value).padding = reader.padding := by
  unfold Reader.take
  split <;> rfl

private theorem Reader.read_all_data {reader : Reader} {data : List Char} {values : List Nat}
    (reads : List.Forall₂ StandsFor data values) (unpadded : reader.padding = false)
    (rest : List Char) :
    reader.read (data ++ rest) = (values.foldl Reader.take reader).read rest := by
  induction reads generalizing reader with
  | nil => rfl
  | cons stands _ ih =>
      rw [List.cons_append, Reader.read_data ((standsFor_iff _ _).mp stands) unpadded]
      exact ih ((reader.take_padding _).trans unpadded)

/-! ### Reading padding -/

/-- After the first character that is no data, only padding is accepted. -/
theorem Reader.eq_equals_of_read {reader : Reader} {rest : List Char} {octets : List UInt8}
    (accepted : reader.read rest = .ok octets)
    (after : reader.padding = true ∨ ∀ char ∈ rest.head?, value? char = none) :
    ∀ char ∈ rest, char = '=' := by
  induction rest generalizing reader with
  | nil =>
      intro char member
      cases member
  | cons first rest ih =>
      by_cases pad : first = '='
      · subst pad
        have others : ∀ char ∈ rest, char = '=' := by
          rw [Reader.read, if_pos rfl] at accepted
          split at accepted
          · split at accepted
            · split at accepted
              · rename_i last
                rw [List.isEmpty_iff.mp last]
                intro char member
                cases member
              · cases accepted
            · exact ih accepted (Or.inl rfl)
          · exact ih accepted (Or.inl rfl)
        intro char member
        rcases List.mem_cons.mp member with same | later
        · exact same
        · exact others char later
      · rw [Reader.read, if_neg pad] at accepted
        cases data : value? first with
        | none =>
            rw [data] at accepted
            cases accepted
        | some value =>
            rcases after with padded | foreign
            · simp only [data, padded, if_true] at accepted
              cases accepted
            · rw [foreign first rfl] at data
              cases data

private theorem Reader.read_pads_between {reader : Reader} (empty : reader.filled = 0)
    (pads : Nat) :
    reader.read (List.replicate pads '=') = .ok reader.done.reverse := by
  induction pads generalizing reader with
  | zero => simp only [List.replicate_zero, Reader.read, Reader.finish, empty, if_true]
  | succ pads ih =>
      rw [List.replicate_succ, Reader.read, if_pos rfl, if_neg (by omega)]
      exact ih empty

private theorem Reader.read_pads_stray {reader : Reader} (one : reader.filled = 1) (pads : Nat)
    (octets : List UInt8) : reader.read (List.replicate pads '=') ≠ .ok octets := by
  induction pads generalizing reader with
  | zero =>
      simp only [List.replicate_zero, Reader.read, Reader.finish, one]
      intro accepted
      cases accepted
  | succ pads ih =>
      rw [List.replicate_succ, Reader.read, if_pos rfl, if_neg (by omega)]
      exact ih one

theorem Reader.read_pads_iff {reader : Reader} (begun : 2 ≤ reader.filled)
    (unfilled : reader.filled + reader.pads < 4) (pads : Nat) (octets : List UInt8) :
    reader.read (List.replicate pads '=') = .ok octets ↔
      reader.filled + reader.pads + pads = 4 ∧ octets = reader.done.reverse := by
  induction pads generalizing reader with
  | zero =>
      rw [List.replicate_zero, Reader.read, Reader.finish, if_neg (by omega), if_neg (by omega)]
      constructor
      · intro accepted
        cases accepted
      · rintro ⟨full, _⟩
        omega
  | succ pads ih =>
      rw [List.replicate_succ, Reader.read, if_pos rfl, if_pos begun]
      by_cases last : 4 ≤ reader.filled + (reader.pads + 1)
      · rw [if_pos last]
        cases pads with
        | zero =>
            constructor
            · intro accepted
              exact ⟨by omega, (Except.ok.inj accepted).symm⟩
            · rintro ⟨_, same⟩
              rw [same]
              rfl
        | succ pads =>
            constructor
            · intro accepted
              cases accepted
            · rintro ⟨full, _⟩
              omega
      · have more : reader.filled + (reader.pads + 1) < 4 := Nat.not_le.mp last
        have others := @ih { reader with pads := reader.pads + 1, padding := true } begun more
        rw [if_neg last, others, ← Nat.add_assoc, Nat.add_right_comm _ 1 pads]
        rfl

/-! ### The grammar -/

/-- How much padding may follow some data characters: any after whole groups,
and no more than fills it up after a group that has begun. -/
def IsPaddedBy (count pads : Nat) : Prop :=
  count = 0 ∧ pads = 0 ∨ 0 < count ∧ count % 4 = 0 ∨ count % 4 = 2 ∧ pads ≤ 2 ∨
    count % 4 = 3 ∧ pads ≤ 1

/-- The octets that some six-bit values hold: their bits in order, as far as
they make up whole octets. -/
def Carries (values : List Nat) (octets : List UInt8) : Prop :=
  octets.length = 3 * values.length / 4 ∧ octetBits octets <+: values.flatMap (bits 6)

private theorem length_sixBits (values : List Nat) :
    (values.flatMap (bits 6)).length = 6 * values.length := by
  induction values with
  | nil => rfl
  | cons value rest ih =>
      rw [List.flatMap_cons, List.length_append, length_bits, ih, List.length_cons]
      omega

private theorem Reader.HasRead.carries {reader : Reader} {values : List Nat}
    (read : reader.HasRead values) : Carries values reader.done.reverse := by
  refine ⟨?_, _, read.bits⟩
  have lengths := congrArg List.length read.bits
  have filled := read.filled
  rw [List.length_append, length_octetBits, length_bits, length_sixBits] at lengths
  omega

private theorem Carries.unique {values : List Nat} {first second : List UInt8}
    (one : Carries values first) (other : Carries values second) : first = second := by
  have lengths : (octetBits first).length = (octetBits second).length := by
    rw [length_octetBits, length_octetBits, one.1, other.1]
  have part := List.prefix_of_prefix_length_le one.2 other.2 (Nat.le_of_eq lengths)
  exact octetBits_injective (part.eq_of_length lengths)

variable {data text : List Char} {values : List Nat} {octets : List UInt8}

private theorem hasRead_data (reads : List.Forall₂ StandsFor data values) :
    (values.foldl Reader.take Reader.start).HasRead values := by
  have small : ∀ value ∈ values, value < 64 := by
    induction reads with
    | nil =>
        intro value member
        cases member
    | cons stands _ ih =>
        intro value member
        rcases List.mem_cons.mp member with rfl | later
        · exact value_lt_of_standsFor stands
        · exact ih value later
  exact Reader.hasRead_start.foldl small

private theorem head?_data (reads : List.Forall₂ StandsFor data values) (pads : Nat) :
    (data ++ List.replicate pads '=').head? = some '=' ↔ data.length = 0 ∧ 0 < pads := by
  cases reads with
  | nil => cases pads <;> simp [List.replicate_succ]
  | cons stands _ =>
      have data := (standsFor_iff _ _).mp stands
      simp [ne_equals_of_value? data]

private theorem decode_padded (reads : List.Forall₂ StandsFor data values) (pads : Nat)
    (octets : List UInt8) :
    decode (data ++ List.replicate pads '=') = .ok octets ↔
      IsPaddedBy data.length pads ∧ Carries values octets := by
  have read := hasRead_data reads
  have count := reads.length_eq
  rw [decode]
  by_cases leads : (data ++ List.replicate pads '=').head? = some '='
  · rw [if_pos leads]
    obtain ⟨empty, some⟩ := (head?_data reads pads).mp leads
    constructor
    · intro accepted
      cases accepted
    · rintro ⟨padded, _⟩
      unfold IsPaddedBy at padded
      omega
  · rw [if_neg leads]
    rw [head?_data reads pads] at leads
    rw [filler, List.length_append, List.length_replicate, List.append_assoc,
      List.replicate_append_replicate, Reader.read_all_data reads rfl]
    generalize total : pads + (4 - (data.length + pads) % 4) % 4 = all
    generalize values.foldl Reader.take Reader.start = reader at read
    have same : octets = reader.done.reverse ↔ Carries values octets := by
      constructor
      · rintro rfl
        exact read.carries
      · intro carries
        exact carries.unique read.carries
    have filled := read.filled
    have uncounted := read.pads
    rw [← same, IsPaddedBy]
    have places : reader.filled = 0 ∨ reader.filled = 1 ∨ 2 ≤ reader.filled ∧ reader.filled < 4 := by
      omega
    rcases places with between | one | ⟨begun, unfilled⟩
    · rw [Reader.read_pads_between between, Except.ok.injEq, eq_comm]
      constructor
      · intro done
        exact ⟨by omega, done⟩
      · rintro ⟨_, done⟩
        exact done
    · constructor
      · intro accepted
        exact absurd accepted (Reader.read_pads_stray one all octets)
      · rintro ⟨padded, _⟩
        omega
    · rw [Reader.read_pads_iff begun (by omega)]
      constructor
      · rintro ⟨full, done⟩
        exact ⟨by omega, done⟩
      · rintro ⟨padded, done⟩
        exact ⟨by omega, done⟩

private theorem exists_data (text : List Char) :
    ∃ data values rest, text = data ++ rest ∧ List.Forall₂ StandsFor data values ∧
      ∀ char ∈ rest.head?, value? char = none := by
  induction text with
  | nil =>
      refine ⟨[], [], [], rfl, List.Forall₂.nil, ?_⟩
      intro char member
      cases member
  | cons first rest ih =>
      cases data : value? first with
      | none =>
          refine ⟨[], [], first :: rest, rfl, List.Forall₂.nil, ?_⟩
          intro char member
          rw [← Option.some.inj member]
          exact data
      | some value =>
          obtain ⟨others, values, after, split, reads, ends⟩ := ih
          refine ⟨first :: others, value :: values, after, ?_, ?_, ends⟩
          · rw [split, List.cons_append]
          · exact List.Forall₂.cons ((standsFor_iff first value).mpr data) reads

private theorem exists_padded_of_decode (accepted : decode text = .ok octets) :
    ∃ data values pads, text = data ++ List.replicate pads '=' ∧
      List.Forall₂ StandsFor data values := by
  obtain ⟨data, values, rest, split, reads, ends⟩ := exists_data text
  subst split
  rw [decode] at accepted
  split at accepted
  · cases accepted
  · rw [List.append_assoc, Reader.read_all_data reads rfl] at accepted
    have after : ∀ char ∈ (rest ++ filler (data ++ rest)).head?, value? char = none := by
      cases rest with
      | nil =>
          intro char member
          rw [List.nil_append] at member
          rw [List.eq_of_mem_replicate (List.mem_of_mem_head? member)]
          rfl
      | cons first others => exact ends
    have padding := Reader.eq_equals_of_read accepted (Or.inr after)
    refine ⟨data, values, rest.length, ?_, reads⟩
    rw [List.eq_replicate_of_mem fun char member => padding char (List.mem_append_left _ member),
      List.length_replicate]

/-- Exactly the texts of the grammar are accepted, for exactly the octets that
their data carries. -/
theorem decode_eq_ok_iff (text : List Char) (octets : List UInt8) :
    decode text = .ok octets ↔
      ∃ data values pads, text = data ++ List.replicate pads '=' ∧
        List.Forall₂ StandsFor data values ∧ IsPaddedBy data.length pads ∧
        Carries values octets := by
  constructor
  · intro accepted
    obtain ⟨data, values, pads, rfl, reads⟩ := exists_padded_of_decode accepted
    exact ⟨data, values, pads, rfl, reads, (decode_padded reads pads octets).mp accepted⟩
  · rintro ⟨data, values, pads, rfl, reads, fits⟩
    exact (decode_padded reads pads octets).mpr fits

/-! ### Other spellings -/

def Respells (char written : Char) : Prop :=
  char = written ∨ written = '-' ∧ (char = '+' ∨ char = ' ') ∨ written = '_' ∧ char = '/'

private theorem Respells.standsFor {char written : Char} {value : Nat}
    (respells : Respells char written)
    (stands : StandsFor written value) : StandsFor char value := by
  rcases respells with rfl | ⟨rfl, spelled⟩ | ⟨rfl, spelled⟩
  · exact stands
  · have known := (standsFor_iff _ _).mp stands
    rw [← Option.some.inj known]
    exact Or.inr (Or.inl ⟨rfl, spelled⟩)
  · have known := (standsFor_iff _ _).mp stands
    rw [← Option.some.inj known]
    exact Or.inr (Or.inr ⟨rfl, spelled⟩)

private theorem standsFor_respelled {written : List Char}
    (respelled : List.Forall₂ Respells data written)
    (reads : List.Forall₂ StandsFor written values) : List.Forall₂ StandsFor data values := by
  induction respelled generalizing values with
  | nil => exact reads
  | cons respells _ ih =>
      obtain ⟨value, rest, stands, others, rfl⟩ := List.forall₂_cons_left_iff.mp reads
      exact List.Forall₂.cons (respells.standsFor stands) (ih others)

theorem exists_value_of_mem (reads : List.Forall₂ StandsFor data values) {char : Char}
    (member : char ∈ data) : ∃ value, value? char = some value := by
  induction reads with
  | nil => cases member
  | cons stands _ ih =>
      rcases List.mem_cons.mp member with rfl | later
      · exact ⟨_, (standsFor_iff _ _).mp stands⟩
      · exact ih later

/-- What was written is read back from every other spelling of it, with any part
of its padding left out. -/
theorem decode_respelled (octets : List UInt8) {pads : Nat}
    (respelled : List.Forall₂ Respells data ((encode octets).filter (· ≠ '=')))
    (fewer : pads ≤ (encode octets).count '=') :
    decode (data ++ List.replicate pads '=') = .ok octets := by
  obtain ⟨written, values, all, split, reads, padded, carries⟩ :=
    (decode_eq_ok_iff (encode octets) octets).mp (decode_encode octets)
  have unpadded : ∀ char ∈ written, char ≠ '=' := by
    intro char member
    obtain ⟨value, data⟩ := exists_value_of_mem reads member
    exact ne_equals_of_value? data
  have letters : (encode octets).filter (· ≠ '=') = written := by
    rw [split, List.filter_append, List.filter_replicate, if_neg (by decide), List.append_nil,
      List.filter_eq_self]
    intro char member
    exact decide_eq_true (unpadded char member)
  have count : (encode octets).count '=' = all := by
    rw [split, List.count_append, List.count_replicate_self,
      List.count_eq_zero.mpr fun member => unpadded '=' member rfl, Nat.zero_add]
  rw [letters] at respelled
  rw [count] at fewer
  refine (decode_eq_ok_iff _ octets).mpr
    ⟨data, values, pads, rfl, standsFor_respelled respelled reads, ?_, carries⟩
  rw [respelled.length_eq]
  unfold IsPaddedBy at padded ⊢
  omega

end Scep.Base64
