import Mathlib.Algebra.Group.Nat.Defs
import Mathlib.Tactic.SplitIfs
import Scep.Text.Quoted

/-!
Texts in quotes.

A text in quotes is one line of printable characters.  It can be read back, as an
escape says what it stands for and where it ends, so different texts are different
in quotes.
-/

namespace Scep.Text

/-! ### Printable texts -/

/-- All characters of a text have a visible form or are plain spaces. -/
def IsPrintable (text : List Char) : Prop := ∀ char ∈ text, isPrintable char = true

instance (text : List Char) : Decidable (IsPrintable text) := List.decidableBAll _ text

variable {text first second : List Char} {mark char : Char}

private theorem isPrintable_of_ascii (low : 0x20 ≤ char.toNat) (high : char.toNat < 0x7F) :
    isPrintable char = true := by
  rw [isPrintable, if_pos high]
  exact decide_eq_true low

namespace IsPrintable

private theorem nil : IsPrintable [] := fun _ member => absurd member List.not_mem_nil

private theorem append (before : IsPrintable first) (after : IsPrintable second) :
    IsPrintable (first ++ second) := by
  intro char member
  rcases List.mem_append.mp member with left | right
  · exact before char left
  · exact after char right

private theorem cons (here : isPrintable char = true) (after : IsPrintable text) :
    IsPrintable (char :: text) :=
  List.forall_mem_cons.mpr ⟨here, after⟩

private theorem flatMap {α : Type} {items : List α} {written : α → List Char}
    (each : ∀ item ∈ items, IsPrintable (written item)) : IsPrintable (items.flatMap written) := by
  intro char member
  obtain ⟨item, within, own⟩ := List.mem_flatMap.mp member
  exact each item within char own

theorem intercalate {between : List Char} (plain : IsPrintable between) {pieces : List (List Char)}
    (each : ∀ piece ∈ pieces, IsPrintable piece) : IsPrintable (between.intercalate pieces) := by
  induction pieces with
  | nil => exact nil
  | cons piece others ih =>
      have own := each piece List.mem_cons_self
      have later := ih fun other member => each other (List.mem_cons_of_mem _ member)
      cases others with
      | nil =>
          rw [List.intercalate_singleton]
          exact own
      | cons next rest =>
          rw [List.intercalate_cons_cons]
          exact (own.append plain).append later

theorem toDigits (value : Nat) : IsPrintable (Nat.toDigits 10 value) := by
  intro char member
  have digit := Nat.isDigit_of_mem_toDigits (by decide) (by decide) member
  rw [Char.isDigit_iff_toNat] at digit
  change 48 ≤ char.toNat ∧ char.toNat ≤ 57 at digit
  exact isPrintable_of_ascii (by omega) (by omega)

private theorem hexFixed (width value : Nat) : IsPrintable (hexFixed width value) := by
  have digits : ∀ digit < 16, isPrintable (hexDigit digit) = true := by decide
  induction width generalizing value with
  | zero => exact nil
  | succ width ih =>
      exact (ih (value / 16)).append (cons (digits _ (Nat.mod_lt value (by decide))) nil)

end IsPrintable

/-! ### Quotation marks and escapes -/

def IsQuotation (mark : Char) : Prop := mark = '\x27' ∨ mark = '\x22'

private theorem isQuotation_quotationMark (text : List Char) : IsQuotation (quotationMark text) :=
    by
  unfold quotationMark
  split_ifs
  · exact Or.inr rfl
  · exact Or.inl rfl

private theorem IsQuotation.isPrintable (quotation : IsQuotation mark) : isPrintable mark = true :=
    by
  rcases quotation with rfl | rfl <;> decide

private theorem isPrintable_escape (quotation : IsQuotation mark) (char : Char) :
    IsPrintable (escape mark char) := by
  have sign : Text.isPrintable '\\' = true := by decide
  have coded : ∀ letter width, Text.isPrintable letter = true →
      IsPrintable ('\\' :: letter :: hexFixed width char.toNat) :=
    fun letter width plain => .cons sign (.cons plain (.hexFixed width char.toNat))
  unfold escape
  split_ifs with special _ _ _ own
  · refine .cons sign (.cons ?_ .nil)
    rcases special with rfl | rfl
    · exact sign
    · exact quotation.isPrintable
  · decide
  · decide
  · decide
  · exact .cons own .nil
  · exact coded 'x' 2 (by decide)
  · exact coded 'u' 4 (by decide)
  · exact coded 'U' 8 (by decide)

private theorem isPrintable_quote (text : List Char) : IsPrintable (quote text) := by
  have quotation := isQuotation_quotationMark text
  have mark := quotation.isPrintable
  exact ((IsPrintable.flatMap fun char _ => isPrintable_escape quotation char).cons mark).append
    (.cons mark .nil)

/-! ### Reading back -/

def hexNumber (digits : List Char) : Nat :=
  digits.foldl (fun value digit => value * 16 + (hexValue? digit).getD 0) 0

def codeWidth? : Char → Option Nat
  | 'x' => some 2
  | 'u' => some 4
  | 'U' => some 8
  | _ => none

def named : Char → Char
  | 'n' => '\n'
  | 'r' => '\r'
  | 't' => '\t'
  | letter => letter

def unescape? : List Char → Option (Char × List Char)
  | [] => none
  | ['\\'] => none
  | '\\' :: letter :: rest =>
    match codeWidth? letter with
    | some width => some (Char.ofNat (hexNumber (rest.take width)), rest.drop width)
    | none => some (named letter, rest)
  | char :: rest => some (char, rest)

private theorem length_hexFixed (width value : Nat) : (hexFixed width value).length = width := by
  induction width generalizing value with
  | zero => rfl
  | succ width ih => rw [hexFixed, List.length_append, ih, List.length_singleton]

private theorem hexNumber_concat (digits : List Char) (last : Char) :
    hexNumber (digits ++ [last]) = hexNumber digits * 16 + (hexValue? last).getD 0 := by
  rw [hexNumber, List.foldl_append]
  rfl

private theorem hexNumber_hexFixed (width value : Nat) :
    hexNumber (hexFixed width value) = value % 16 ^ width := by
  have digits : ∀ digit < 16, hexValue? (hexDigit digit) = some digit := by decide
  induction width generalizing value with
  | zero => exact (Nat.mod_one value).symm
  | succ width ih =>
      have last := digits (value % 16) (Nat.mod_lt value (by decide))
      have split := Nat.mod_mul (x := value) (a := 16) (b := 16 ^ width)
      rw [hexFixed, hexNumber_concat, ih, last, Option.getD_some, Nat.pow_succ', split]
      omega

private theorem unescape?_plain (plain : char ≠ '\\') (rest : List Char) :
    unescape? (char :: rest) = some (char, rest) := by
  rw [unescape?]
  · exact fun same _ => plain same
  · exact fun _ _ same _ => plain same

private theorem unescape?_code {letter : Char} {width : Nat}
    (announces : codeWidth? letter = some width)
    (fits : char.toNat < 16 ^ width) (rest : List Char) :
    unescape? ('\\' :: letter :: hexFixed width char.toNat ++ rest) = some (char, rest) := by
  have taken : (hexFixed width char.toNat ++ rest).take width = hexFixed width char.toNat :=
    List.take_left' (length_hexFixed width char.toNat)
  have dropped : (hexFixed width char.toNat ++ rest).drop width = rest :=
    List.drop_left' (length_hexFixed width char.toNat)
  rw [List.cons_append, List.cons_append, unescape?, announces]
  simp only [taken, dropped, hexNumber_hexFixed, Nat.mod_eq_of_lt fits, Char.ofNat_toNat]

private theorem unescape?_escape (quotation : IsQuotation mark) (char : Char) (rest : List Char) :
    unescape? (escape mark char ++ rest) = some (char, rest) := by
  have scalar : char.toNat < 0xD800 ∨ 0xDFFF < char.toNat ∧ char.toNat < 0x110000 := char.valid
  unfold escape
  split_ifs with special line feed tab _ byte word
  · rcases special with rfl | rfl
    · rfl
    · rcases quotation with rfl | rfl <;> rfl
  · rw [line]
    rfl
  · rw [feed]
    rfl
  · rw [tab]
    rfl
  · exact unescape?_plain (fun same => special (Or.inl same)) rest
  · exact unescape?_code rfl byte rest
  · exact unescape?_code rfl word rest
  · exact unescape?_code rfl (by omega) rest

private theorem flatMap_escape_injective (quotation : IsQuotation mark)
    (same : first.flatMap (escape mark) = second.flatMap (escape mark)) : first = second := by
  have reads : ∀ char rest, unescape? ((char :: rest).flatMap (escape mark)) =
      some (char, rest.flatMap (escape mark)) := by
    intro char rest
    rw [List.flatMap_cons]
    exact unescape?_escape quotation char _
  -- Both texts are read from the front, so their first characters agree, and then the rests.
  induction first generalizing second with
  | nil =>
      cases second with
      | nil => rfl
      | cons char rest =>
          have read := reads char rest
          rw [← same] at read
          cases read
  | cons char rest ih =>
      have read := reads char rest
      rw [same] at read
      cases second with
      | nil => cases read
      | cons other others =>
          rw [reads other others] at read
          obtain ⟨rfl, later⟩ := Prod.mk.inj (Option.some.inj read)
          rw [ih later.symm]

private theorem quote_injective (same : quote first = quote second) : first = second := by
  obtain ⟨marks, rest⟩ := List.cons.inj same
  rw [marks] at rest
  exact flatMap_escape_injective (isQuotation_quotationMark second) (List.append_cancel_right rest)

theorem quoted_injective {one other : String} (same : quoted one = quoted other) : one = other :=
  String.toList_inj.mp (quote_injective (String.ofList_injective same))

/-! ### Strings -/

def IsLegible (text : String) : Prop := IsPrintable text.toList

instance (text : String) : Decidable (IsLegible text) := inferInstanceAs (Decidable (IsPrintable _))

namespace IsLegible

theorem ofList (plain : IsPrintable text) : IsLegible (String.ofList text) := by
  rw [IsLegible, String.toList_ofList]
  exact plain

theorem append {one other : String} (before : IsLegible one) (after : IsLegible other) :
    IsLegible (one ++ other) := by
  rw [IsLegible, String.toList_append]
  exact IsPrintable.append before after

theorem quoted (text : String) : IsLegible (quoted text) := ofList (isPrintable_quote text.toList)

theorem natural (value : Nat) : IsLegible (toString value) := by
  change IsPrintable (Nat.repr value).toList
  rw [Nat.toList_repr]
  exact .toDigits value

theorem whole (value : Int) : IsLegible (toString value) := by
  cases value with
  | ofNat value => exact natural value
  | negSucc value => exact append (ofList (by decide)) (natural (value + 1))

end IsLegible

end Scep.Text
