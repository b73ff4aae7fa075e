import Scep.Proofs.Text.Utf8
import Scep.Text.Percent

/-!
Reading back what is written with percent escapes.
-/

namespace Scep.Text.Percent

open Utf8 (Decoder)

/-! ### Octets -/

private theorem hexValue?_upperHexDigit : ∀ value < 16, hexValue? (upperHexDigit value) = some
    value := by
  decide

private theorem decodeInto_escapeOctet (decoder : Decoder) (octet : UInt8) (rest : List Char) :
    decodeInto decoder (escapeOctet octet ++ rest) = decodeInto (decoder.step octet) rest := by
  have size : octet.toNat < 256 := octet.toNat_lt
  have high := hexValue?_upperHexDigit (octet.toNat / 16) (by omega)
  have low := hexValue?_upperHexDigit (octet.toNat % 16) (by omega)
  have whole : octet.toNat / 16 * 16 + octet.toNat % 16 = octet.toNat := by omega
  change decodeInto decoder ('%' :: upperHexDigit (octet.toNat / 16) ::
    upperHexDigit (octet.toNat % 16) :: rest) = _
  simp only [decodeInto, high, low, whole, UInt8.ofNat_toNat]

private theorem decodeInto_escapeOctets (decoder : Decoder) (octets : List UInt8)
    (rest : List Char) :
    decodeInto decoder (octets.flatMap escapeOctet ++ rest) =
      decodeInto (octets.foldl Decoder.step decoder) rest := by
  induction octets generalizing decoder with
  | nil => rfl
  | cons octet others ih =>
      rw [List.flatMap_cons, List.append_assoc, decodeInto_escapeOctet, ih, List.foldl_cons]

/-! ### Characters -/

variable {done : List Char} {char : Char}

theorem decodeInto_escape (rest : List Char) :
    decodeInto ⟨done, none⟩ (escape char ++ rest) = decodeInto ⟨char :: done, none⟩ rest := by
  rw [escape, decodeInto_escapeOctets, (Utf8.spelled_encodeChar char).foldl_step]

theorem decodeInto_plain (ascii : char.toNat < 0x80) (plain : char ≠ '%') (rest : List Char) :
    decodeInto ⟨done, none⟩ (char :: rest) = decodeInto ⟨char :: done, none⟩ rest := by
  have step : Decoder.step ⟨done, none⟩ (UInt8.ofNat char.toNat) = ⟨char :: done, none⟩ := by
    apply Decoder.step_first_complete
    rw [Utf8.toNat_ofNat_of_lt (by omega), Utf8.first_ascii ascii, Char.ofNat_toNat]
  rw [decodeInto]
  · rw [if_pos ascii, step]
  · intro high low others same
    exact absurd same plain

theorem decode_of_plain {text : List Char}
    (plain : ∀ char ∈ text, char.toNat < 0x80 ∧ char ≠ '%') : decode text = text := by
  have all : ∀ done, decodeInto ⟨done, none⟩ text = done.reverse ++ text := by
    induction text with
    | nil =>
        intro done
        exact (List.append_nil _).symm
    | cons char rest ih =>
        intro done
        obtain ⟨ascii, other⟩ := plain char List.mem_cons_self
        have later := ih fun item member => plain item (List.mem_cons_of_mem char member)
        rw [decodeInto_plain ascii other, later, List.reverse_cons, List.append_assoc]
        rfl
  exact all []

private theorem upperHexDigit_isAlphanum : ∀ value < 16, (upperHexDigit value).isAlphanum = true :=
    by
  decide

theorem mem_escape {other : Char} (member : other ∈ escape char) :
    other = '%' ∨ other.isAlphanum = true := by
  obtain ⟨octet, _, written⟩ := List.mem_flatMap.mp member
  have size : octet.toNat < 256 := octet.toNat_lt
  simp only [escapeOctet, List.mem_cons, List.not_mem_nil, or_false] at written
  rcases written with sign | high | low
  · exact Or.inl sign
  · rw [high]
    exact Or.inr (upperHexDigit_isAlphanum _ (by omega))
  · rw [low]
    exact Or.inr (upperHexDigit_isAlphanum _ (by omega))

/-! ### Texts with nothing to escape -/

theorem encode_of_safe {safe : Char → Bool} {text : List Char}
    (all : ∀ char ∈ text, safe char = true) : encode safe text = text := by
  induction text with
  | nil => rfl
  | cons char rest ih =>
      have here := all char List.mem_cons_self
      have there := ih fun other member => all other (List.mem_cons_of_mem char member)
      unfold encode at there ⊢
      rw [List.flatMap_cons, if_pos here, there, List.singleton_append]

end Scep.Text.Percent
