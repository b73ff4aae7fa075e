import Scep.Base64

/-!
Base64 that is written and read back.

A whole group of four characters leaves a reader as it was but for the octets
read and the characters counted, so reading follows the groups of writing.
-/

namespace Scep.Base64

/-! ### The alphabet -/

theorem value?_letter : ∀ value < 64, value? (letter value) = some value := by
  decide

private theorem toNat_letter_lt : ∀ value < 64, (letter value).toNat < 0x80 := by
  decide

theorem ne_equals_of_value? {char : Char} {value : Nat} (data : value? char = some value) :
    char ≠ '=' := by
  intro same
  rw [same] at data
  cases data

/-! ### Reading one character -/

variable {reader : Reader} {char : Char} {rest : List Char}

theorem Reader.read_data {value : Nat} (data : value? char = some value)
    (unpadded : reader.padding = false) :
    reader.read (char :: rest) = (reader.take value).read rest := by
  rw [Reader.read, if_neg (ne_equals_of_value? data)]
  simp only [data, unpadded, Bool.false_eq_true, if_false]

private theorem Reader.read_last_pad (started : 2 ≤ reader.filled)
    (completes : 4 ≤ reader.filled + (reader.pads + 1)) :
    reader.read ['='] = .ok reader.done.reverse := by
  simp only [Reader.read, if_true, if_pos started, if_pos completes, List.isEmpty_nil]

private theorem Reader.read_pad (started : 2 ≤ reader.filled)
    (incomplete : reader.filled + (reader.pads + 1) < 4) :
    reader.read ('=' :: rest) =
      Reader.read { reader with pads := reader.pads + 1, padding := true } rest := by
  simp only [Reader.read, if_true, if_pos started, if_neg (Nat.not_le.mpr incomplete)]

/-! ### Reading groups -/

def Reader.between (count : Nat) (done : List UInt8) : Reader := ⟨0, 0, 0, false, count, done⟩

variable {count : Nat} {done : List UInt8}

private theorem Reader.read_group {w x y z : Char} {first second third fourth : Nat}
    (readsW : value? w = some first) (readsX : value? x = some second)
    (readsY : value? y = some third) (readsZ : value? z = some fourth) :
    (Reader.between count done).read (w :: x :: y :: z :: rest) =
      (Reader.between (count + 4)
        (UInt8.ofNat (third % 4 * 64 + fourth) :: UInt8.ofNat (second % 16 * 16 + third / 4) ::
          UInt8.ofNat (first * 4 + second / 16) :: done)).read rest := by
  rw [Reader.read_data readsW rfl, Reader.read_data readsX rfl, Reader.read_data readsY rfl,
    Reader.read_data readsZ rfl]
  rfl

private theorem Reader.read_three {w x y : Char} {first second third : Nat}
    (readsW : value? w = some first) (readsX : value? x = some second)
    (readsY : value? y = some third) :
    (Reader.between count done).read [w, x, y, '='] =
      .ok (done.reverse ++ [UInt8.ofNat (first * 4 + second / 16),
        UInt8.ofNat (second % 16 * 16 + third / 4)]) := by
  rw [Reader.read_data readsW rfl, Reader.read_data readsX rfl, Reader.read_data readsY rfl]
  have started : 2 ≤ (((between count done).take first).take second |>.take third).filled :=
    Nat.le_succ 2
  rw [Reader.read_last_pad started (Nat.le_refl 4)]
  simp only [Reader.take, Reader.between, List.reverse_cons, List.append_assoc,
    List.singleton_append]

private theorem Reader.read_two {w x : Char} {first second : Nat}
    (readsW : value? w = some first) (readsX : value? x = some second) :
    (Reader.between count done).read [w, x, '=', '='] =
      .ok (done.reverse ++ [UInt8.ofNat (first * 4 + second / 16)]) := by
  rw [Reader.read_data readsW rfl, Reader.read_data readsX rfl]
  have started : 2 ≤ (((between count done).take first).take second).filled := Nat.le_refl 2
  rw [Reader.read_pad started (Nat.le_refl 4), Reader.read_last_pad]
  · simp only [Reader.take, Reader.between, List.reverse_cons]
  · exact Nat.le_refl 2
  · exact Nat.le_refl 4

/-! ### Writing groups -/

private theorem encodeOnto_eq (write : Nat → Char) :
    (octets : List UInt8) → (written : List Char) →
      encodeOnto write written octets = encodeOnto write [] octets ++ written
  | [], _ => rfl
  | [_], _ => rfl
  | [_, _], _ => rfl
  | a :: b :: c :: rest, written => by
      simp only [encodeOnto]
      rw [encodeOnto_eq write rest (_ :: _ :: _ :: _ :: written),
        encodeOnto_eq write rest [_, _, _, _], List.append_assoc]
      rfl

private theorem encode_group (a b c : UInt8) (rest : List UInt8) :
    encode (a :: b :: c :: rest) =
      letter (a.toNat / 4) :: letter (a.toNat % 4 * 16 + b.toNat / 16) ::
        letter (b.toNat % 16 * 4 + c.toNat / 64) :: letter (c.toNat % 64) :: encode rest := by
  have first : a.toNat < 256 := a.toNat_lt
  have second : b.toNat < 256 := b.toNat_lt
  have third : c.toNat < 256 := c.toNat_lt
  have placeA : (a.toNat * 65536 + b.toNat * 256 + c.toNat) / 262144 = a.toNat / 4 := by omega
  have placeB : (a.toNat * 65536 + b.toNat * 256 + c.toNat) / 4096 % 64 =
      a.toNat % 4 * 16 + b.toNat / 16 := by omega
  have placeC : (a.toNat * 65536 + b.toNat * 256 + c.toNat) / 64 % 64 =
      b.toNat % 16 * 4 + c.toNat / 64 := by omega
  have placeD : (a.toNat * 65536 + b.toNat * 256 + c.toNat) % 64 = c.toNat % 64 := by omega
  simp only [encode, encodeOnto]
  rw [encodeOnto_eq letter rest [_, _, _, _], List.reverse_append, placeA, placeB, placeC, placeD]
  rfl

private theorem encode_two (a b : UInt8) :
    encode [a, b] = [letter (a.toNat / 4), letter (a.toNat % 4 * 16 + b.toNat / 16),
      letter (b.toNat % 16 * 4), '='] := by
  have first : a.toNat < 256 := a.toNat_lt
  have second : b.toNat < 256 := b.toNat_lt
  have placeA : (a.toNat * 1024 + b.toNat * 4) / 4096 = a.toNat / 4 := by omega
  have placeB : (a.toNat * 1024 + b.toNat * 4) / 64 % 64 = a.toNat % 4 * 16 + b.toNat / 16 := by
    omega
  have placeC : (a.toNat * 1024 + b.toNat * 4) % 64 = b.toNat % 16 * 4 := by omega
  simp only [encode, encodeOnto]
  rw [placeA, placeB, placeC]
  rfl

private theorem encode_one (a : UInt8) :
    encode [a] = [letter (a.toNat / 4), letter (a.toNat % 4 * 16), '=', '='] := by
  have first : a.toNat < 256 := a.toNat_lt
  have placeA : a.toNat * 16 / 64 = a.toNat / 4 := by omega
  have placeB : a.toNat * 16 % 64 = a.toNat % 4 * 16 := by omega
  simp only [encode, encodeOnto]
  rw [placeA, placeB]
  rfl

/-! ### What is written is read back -/

private theorem read_encode : (octets : List UInt8) → (count : Nat) → (done : List UInt8) →
    (Reader.between count done).read (encode octets) = .ok (done.reverse ++ octets)
  | [], _, done => by
      rw [List.append_nil]
      rfl
  | [a], _, done => by
      have first : a.toNat < 256 := a.toNat_lt
      have same : UInt8.ofNat (a.toNat / 4 * 4 + a.toNat % 4 * 16 / 16) = a := by
        rw [show a.toNat / 4 * 4 + a.toNat % 4 * 16 / 16 = a.toNat by omega, UInt8.ofNat_toNat]
      rw [encode_one, Reader.read_two (value?_letter _ (by omega)) (value?_letter _ (by omega)),
        same]
  | [a, b], _, done => by
      have first : a.toNat < 256 := a.toNat_lt
      have second : b.toNat < 256 := b.toNat_lt
      have sameA : UInt8.ofNat (a.toNat / 4 * 4 + (a.toNat % 4 * 16 + b.toNat / 16) / 16) = a := by
        rw [show a.toNat / 4 * 4 + (a.toNat % 4 * 16 + b.toNat / 16) / 16 = a.toNat by omega,
          UInt8.ofNat_toNat]
      have sameB : UInt8.ofNat ((a.toNat % 4 * 16 + b.toNat / 16) % 16 * 16 +
          b.toNat % 16 * 4 / 4) = b := by
        rw [show (a.toNat % 4 * 16 + b.toNat / 16) % 16 * 16 + b.toNat % 16 * 4 / 4 = b.toNat by
          omega, UInt8.ofNat_toNat]
      rw [encode_two, Reader.read_three (value?_letter _ (by omega)) (value?_letter _ (by omega))
        (value?_letter _ (by omega)), sameA, sameB]
  | a :: b :: c :: rest, count, done => by
      have first : a.toNat < 256 := a.toNat_lt
      have second : b.toNat < 256 := b.toNat_lt
      have third : c.toNat < 256 := c.toNat_lt
      have sameA : UInt8.ofNat (a.toNat / 4 * 4 + (a.toNat % 4 * 16 + b.toNat / 16) / 16) = a := by
        rw [show a.toNat / 4 * 4 + (a.toNat % 4 * 16 + b.toNat / 16) / 16 = a.toNat by omega,
          UInt8.ofNat_toNat]
      have sameB : UInt8.ofNat ((a.toNat % 4 * 16 + b.toNat / 16) % 16 * 16 +
          (b.toNat % 16 * 4 + c.toNat / 64) / 4) = b := by
        rw [show (a.toNat % 4 * 16 + b.toNat / 16) % 16 * 16 +
          (b.toNat % 16 * 4 + c.toNat / 64) / 4 = b.toNat by omega, UInt8.ofNat_toNat]
      have sameC : UInt8.ofNat ((b.toNat % 16 * 4 + c.toNat / 64) % 4 * 64 + c.toNat % 64) = c := by
        rw [show (b.toNat % 16 * 4 + c.toNat / 64) % 4 * 64 + c.toNat % 64 = c.toNat by omega,
          UInt8.ofNat_toNat]
      rw [encode_group, Reader.read_group (value?_letter _ (by omega))
        (value?_letter _ (by omega)) (value?_letter _ (by omega)) (value?_letter _ (by omega)),
        sameA, sameB, sameC, read_encode rest]
      simp only [List.reverse_cons, List.append_assoc, List.cons_append, List.nil_append]

theorem length_encode : (octets : List UInt8) →
    (encode octets).length = 4 * ((octets.length + 2) / 3)
  | [] => by decide
  | [a] => by
      rw [encode_one]
      simp only [List.length_cons, List.length_nil]
  | [a, b] => by
      rw [encode_two]
      simp only [List.length_cons, List.length_nil]
  | a :: b :: c :: rest => by
      rw [encode_group]
      simp only [List.length_cons]
      have others := length_encode rest
      omega

private theorem head?_encode_ne_equals : (octets : List UInt8) → (encode octets).head? ≠ some '='
  | [] => by
      intro impossible
      cases impossible
  | a :: rest => by
      have first : a.toNat < 256 := a.toNat_lt
      have data : letter (a.toNat / 4) ≠ '=' :=
        ne_equals_of_value? (value?_letter (a.toNat / 4) (by omega))
      match rest with
      | [] =>
          rw [encode_one, List.head?_cons]
          exact fun same => data (Option.some.inj same)
      | [b] =>
          rw [encode_two, List.head?_cons]
          exact fun same => data (Option.some.inj same)
      | b :: c :: others =>
          rw [encode_group, List.head?_cons]
          exact fun same => data (Option.some.inj same)

/-- Octets are read as they were written. -/
theorem decode_encode (octets : List UInt8) : decode (encode octets) = .ok octets := by
  have filled : filler (encode octets) = [] := by
    simp only [filler, length_encode octets, Nat.mul_mod_right, Nat.sub_zero, Nat.mod_self,
      List.replicate_zero]
  rw [decode, if_neg (head?_encode_ne_equals octets), filled, List.append_nil]
  exact read_encode octets 0 []

theorem toNat_lt_of_mem_encode : (octets : List UInt8) → {char : Char} →
    char ∈ encode octets → char.toNat < 0x80
  | [], _, member => by cases member
  | [a], char, member => by
      have first : a.toNat < 256 := a.toNat_lt
      rw [encode_one] at member
      simp only [List.mem_cons, List.not_mem_nil, or_false] at member
      rcases member with same | same | same | same
      · exact same ▸ toNat_letter_lt _ (by omega)
      · exact same ▸ toNat_letter_lt _ (by omega)
      · exact same ▸ (by decide)
      · exact same ▸ (by decide)
  | [a, b], char, member => by
      have first : a.toNat < 256 := a.toNat_lt
      have second : b.toNat < 256 := b.toNat_lt
      rw [encode_two] at member
      simp only [List.mem_cons, List.not_mem_nil, or_false] at member
      rcases member with same | same | same | same
      · exact same ▸ toNat_letter_lt _ (by omega)
      · exact same ▸ toNat_letter_lt _ (by omega)
      · exact same ▸ toNat_letter_lt _ (by omega)
      · exact same ▸ (by decide)
  | a :: b :: c :: rest, char, member => by
      have first : a.toNat < 256 := a.toNat_lt
      have second : b.toNat < 256 := b.toNat_lt
      have third : c.toNat < 256 := c.toNat_lt
      rw [encode_group] at member
      simp only [List.mem_cons] at member
      rcases member with same | same | same | same | later
      · exact same ▸ toNat_letter_lt _ (by omega)
      · exact same ▸ toNat_letter_lt _ (by omega)
      · exact same ▸ toNat_letter_lt _ (by omega)
      · exact same ▸ toNat_letter_lt _ (by omega)
      · exact toNat_lt_of_mem_encode rest later

end Scep.Base64
