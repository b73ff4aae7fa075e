import Mathlib.Tactic.SplitIfs
import Scep.Proofs.Text.Utf8
import Scep.Text.Blank

/-!
Looking for texts among octets.

The octets of a text tell where its characters start: an octet inside a character
starts none.  So the octets of one text occur among those of another only where
the text does.  In a text of several pieces with a mark between them, what is
without the mark occurs within a piece.
-/

namespace Scep.Text

/-! ### Pieces of lists -/

theorem contains_iff {α : Type} [BEq α] [LawfulBEq α] {part whole : List α} :
    contains part whole = true ↔ part <:+: whole := by
  induction whole with
  | nil => rw [contains, List.isEmpty_iff, List.infix_nil]
  | cons first rest ih =>
      rw [contains, Bool.or_eq_true, List.isPrefixOf_iff_prefix, ih, List.infix_cons_iff]

theorem infix_around_iff {α : Type} {mark : α} {part before after : List α} (given : part ≠ [])
    (unmarked : mark ∉ part) :
    part <:+: before ++ mark :: after ↔ part <:+: before ∨ part <:+: after := by
  rw [List.infix_append_iff, List.infix_cons_iff]
  constructor
  · rintro (left | (starts | right) | ⟨suffix, rest, rfl, ends, starts⟩)
    · exact Or.inl left
    · cases part with
      | nil => exact absurd rfl given
      | cons first others =>
          rw [List.cons_prefix_cons] at starts
          exact absurd (starts.1 ▸ List.mem_cons_self) unmarked
    · exact Or.inr right
    · cases rest with
      | nil =>
          rw [List.append_nil]
          exact Or.inl ends.isInfix
      | cons first others =>
          rw [List.cons_prefix_cons] at starts
          exact absurd (starts.1 ▸ List.mem_append_right suffix List.mem_cons_self) unmarked
  · rintro (left | right)
    · exact Or.inl left
    · exact Or.inr (Or.inl (Or.inr right))

theorem intercalate_cons_cons {α : Type} (mark : α) (piece next : List α)
    (others : List (List α)) :
    [mark].intercalate (piece :: next :: others) =
      piece ++ mark :: [mark].intercalate (next :: others) := by
  rw [List.intercalate_cons_cons, List.append_assoc, List.singleton_append]

theorem flatMap_intercalate {α β : Type} (f : α → List β) (between : List α)
    (pieces : List (List α)) :
    (between.intercalate pieces).flatMap f =
      (between.flatMap f).intercalate (pieces.map (List.flatMap f)) := by
  induction pieces with
  | nil => rfl
  | cons piece others ih =>
      cases others with
      | nil => rw [List.map_singleton, List.intercalate_singleton, List.intercalate_singleton]
      | cons next rest =>
          simp only [List.map_cons] at ih ⊢
          rw [List.intercalate_cons_cons, List.intercalate_cons_cons, List.flatMap_append,
            List.flatMap_append, ih]

/-- What is not empty and without the mark does not reach from one piece to the
next. -/
theorem infix_intercalate_iff {α : Type} {mark : α} {part : List α} (given : part ≠ [])
    (unmarked : mark ∉ part) (pieces : List (List α)) :
    part <:+: [mark].intercalate pieces ↔ ∃ piece ∈ pieces, part <:+: piece := by
  induction pieces with
  | nil =>
      constructor
      · intro within
        exact absurd (List.infix_nil.mp within) given
      · rintro ⟨_, member, _⟩
        cases member
  | cons piece others ih =>
      cases others with
      | nil =>
          rw [List.intercalate_singleton]
          constructor
          · intro within
            exact ⟨piece, List.mem_cons_self, within⟩
          · rintro ⟨other, member, within⟩
            rw [← List.mem_singleton.mp member]
            exact within
      | cons next rest =>
          rw [intercalate_cons_cons, infix_around_iff given unmarked, ih]
          constructor
          · rintro (own | ⟨other, member, within⟩)
            · exact ⟨piece, List.mem_cons_self, own⟩
            · exact ⟨other, List.mem_cons_of_mem _ member, within⟩
          · rintro ⟨other, member, within⟩
            rcases List.mem_cons.mp member with rfl | later
            · exact Or.inl within
            · exact Or.inr ⟨other, later, within⟩

/-! ### Words -/

/-- Characters that are not blank, at least one. -/
structure IsSolid (word : List Char) : Prop where
  given : word ≠ []
  unbroken : ∀ char ∈ word, isBlank char = false

private theorem foldl_step_unbroken {word : List Char}
    (unbroken : ∀ char ∈ word, isBlank char = false)
    (done : List (List Char)) (current : List Char) :
    word.foldl Words.step ⟨done, current⟩ = ⟨done, word.reverse ++ current⟩ := by
  induction word generalizing current with
  | nil => rfl
  | cons char rest ih =>
      have here : Words.step ⟨done, current⟩ char = ⟨done, char :: current⟩ := by
        simp only [Words.step, unbroken char List.mem_cons_self, Bool.false_eq_true, if_false]
      have onward := ih fun other member => unbroken other (List.mem_cons_of_mem _ member)
      rw [List.foldl_cons, here, onward, List.reverse_cons, List.append_assoc, List.singleton_append]

private theorem close_solid {word : List Char} (solid : IsSolid word) (done : List (List Char)) :
    (Words.mk done (word.reverse ++ [])).close = word :: done := by
  have present : (word.reverse ++ []).isEmpty = false := by
    rw [List.append_nil, List.isEmpty_reverse]
    exact List.isEmpty_eq_false_iff.mpr solid.given
  rw [Words.close, present, if_neg Bool.false_ne_true, List.append_nil, List.reverse_reverse]

theorem words_intercalate {mark : Char} (blank : isBlank mark = true) {pieces : List (List Char)}
    (solid : ∀ piece ∈ pieces, IsSolid piece) : words ([mark].intercalate pieces) = pieces := by
  have closes : ∀ done, (([mark].intercalate pieces).foldl Words.step ⟨done, []⟩).close =
      pieces.reverse ++ done := by
    induction pieces with
    | nil =>
        intro done
        rfl
    | cons piece others ih =>
        intro done
        have own := solid piece List.mem_cons_self
        cases others with
        | nil =>
            rw [List.intercalate_singleton, foldl_step_unbroken own.unbroken, close_solid own]
            rfl
        | cons next rest =>
            have ended : Words.step ⟨done, piece.reverse ++ []⟩ mark = ⟨piece :: done, []⟩ := by
              rw [Words.step, if_pos blank, close_solid own]
            rw [intercalate_cons_cons, List.foldl_append, foldl_step_unbroken own.unbroken,
              List.foldl_cons, ended,
              ih (fun other member => solid other (List.mem_cons_of_mem _ member)),
              List.reverse_cons (a := piece), List.append_assoc, List.singleton_append]
  rw [words, closes, List.append_nil, List.reverse_reverse]

namespace Utf8

/-! ### Characters as the machine reads them -/

/-- What an octet amounts to at the start of a character or inside one. -/
def reading (pending : Option Pending) (octet : UInt8) : Reading :=
  match pending with
  | none => first octet.toNat
  | some pending => pending.next octet.toNat

inductive Spells (char : Char) : Option Pending → List UInt8 → Prop where
  | last {pending : Option Pending} {octet : UInt8}
      (completes : reading pending octet = .complete char) : Spells char pending [octet]
  | more {pending : Option Pending} {later : Pending} {octet : UInt8} {octets : List UInt8}
      (continues : reading pending octet = .begun later) (rest : Spells char (some later) octets) :
      Spells char pending (octet :: octets)

variable {char other : Char} {pending : Option Pending} {octets : List UInt8} {octet : UInt8}

theorem Spelled.spells (spelled : Spelled char octets) : Spells char none octets := by
  cases spelled with
  | one whole => exact .last whole
  | two pending begins completes => exact .more begins (.last completes)
  | three pending later begins continues completes =>
      exact .more begins (.more continues (.last completes))
  | four pending later latest begins continues goesOn completes =>
      exact .more begins (.more continues (.more goesOn (.last completes)))

private theorem Spells.unique (spells : Spells char pending octets) {others after rest : List UInt8}
    (spellsOther : Spells other pending others) (same : octets ++ after = others ++ rest) :
    char = other ∧ after = rest := by
  induction spells generalizing others with
  | last completes =>
      cases spellsOther with
      | last completesOther =>
          obtain ⟨rfl, rfl⟩ := List.cons.inj same
          exact ⟨Reading.complete.inj (completes.symm.trans completesOther), rfl⟩
      | more continues tail =>
          obtain ⟨rfl, _⟩ := List.cons.inj same
          cases completes.symm.trans continues
  | more continues tail ih =>
      cases spellsOther with
      | last completes =>
          obtain ⟨rfl, _⟩ := List.cons.inj same
          cases continues.symm.trans completes
      | more continuesOther tailOther =>
          obtain ⟨rfl, sameTail⟩ := List.cons.inj same
          cases continues.symm.trans continuesOther
          exact ih tailOther sameTail

/-! ### Where characters start -/

def IsInner (octet : UInt8) : Prop := 0x80 ≤ octet.toNat ∧ octet.toNat < 0xC0

private theorem first_of_isInner (inner : IsInner octet) : first octet.toNat = .refused := by
  obtain ⟨low, high⟩ := inner
  simp only [first, if_neg (show ¬octet.toNat < 0x80 by omega),
    if_pos (show octet.toNat < 0xC2 by omega)]

/-- A pending character that only octets inside of characters go on with. -/
def Pending.IsBounded (pending : Pending) : Prop := 0x80 ≤ pending.low ∧ pending.high < 0xC0

private theorem isBounded_of_reading {later : Pending}
    (begins : reading pending octet = .begun later) :
    later.IsBounded := by
  have bounded : ∀ {made : Pending}, made.IsBounded → Reading.begun made = .begun later →
      later.IsBounded := by
    intro made within same
    rw [← Reading.begun.inj same]
    exact within
  cases pending with
  | none =>
      simp only [reading, first] at begins
      split_ifs at begins
      all_goals first
        | exact Reading.noConfusion begins
        | exact bounded ⟨Nat.le_of_ble_eq_true rfl, Nat.le_of_ble_eq_true rfl⟩ begins
  | some pending =>
      simp only [reading, Pending.next] at begins
      split_ifs at begins
      exact bounded ⟨Nat.le_of_ble_eq_true rfl, Nat.le_of_ble_eq_true rfl⟩ begins

private theorem isInner_of_next {begun : Pending} (bounded : begun.IsBounded)
    (read : reading (some begun) octet ≠ .refused) : IsInner octet := by
  by_cases within : begun.low ≤ octet.toNat ∧ octet.toNat ≤ begun.high
  · exact ⟨Nat.le_trans bounded.1 within.1, Nat.lt_of_le_of_lt within.2 bounded.2⟩
  · exact absurd (if_neg within) read

private theorem Spells.isInner (spells : Spells char pending octets)
    (bounded : ∀ begun, pending = some begun → begun.IsBounded) (inside : pending ≠ none) :
    ∀ octet ∈ octets, IsInner octet := by
  induction spells with
  | @last pending octet completes =>
      cases pending with
      | none => exact absurd rfl inside
      | some begun =>
          intro other member
          rw [List.mem_singleton.mp member]
          exact isInner_of_next (bounded begun rfl) (by rw [completes]; exact Reading.noConfusion)
  | @more pending later octet octets continues tail ih =>
      cases pending with
      | none => exact absurd rfl inside
      | some begun =>
          intro other member
          rcases List.mem_cons.mp member with rfl | behind
          · exact isInner_of_next (bounded begun rfl)
              (by rw [continues]; exact Reading.noConfusion)
          · refine ih ?_ (Option.some_ne_none later) other behind
            intro next same
            rw [← Option.some.inj same]
            exact isBounded_of_reading continues

theorem encodeChar_eq_cons (char : Char) :
    ∃ head tail, String.utf8EncodeChar char = head :: tail ∧ ¬IsInner head ∧
      ∀ octet ∈ tail, IsInner octet := by
  have spells := (spelled_encodeChar char).spells
  generalize String.utf8EncodeChar char = octets at spells
  cases spells with
  | @last _ octet completes =>
      refine ⟨octet, [], rfl, ?_, nofun⟩
      intro inner
      exact Reading.noConfusion (completes.symm.trans (first_of_isInner inner))
  | @more _ later octet octets begins rest =>
      refine ⟨octet, octets, rfl, ?_, rest.isInner ?_ (Option.some_ne_none later)⟩
      · intro inner
        exact Reading.noConfusion (begins.symm.trans (first_of_isInner inner))
      · intro next same
        rw [← Option.some.inj same]
        exact isBounded_of_reading begins

theorem encode_cons (char : Char) (text : List Char) :
    encode (char :: text) = String.utf8EncodeChar char ++ encode text :=
  List.flatMap_cons

theorem encode_append (before after : List Char) :
    encode (before ++ after) = encode before ++ encode after :=
  List.flatMap_append

private theorem exists_of_encode {text : List Char} {before rest : List UInt8}
    (same : encode text = before ++ octet :: rest) (starts : ¬IsInner octet) :
    ∃ earlier later, text = earlier ++ later ∧ encode later = octet :: rest := by
  induction text generalizing before with
  | nil => exact absurd same.symm (List.append_ne_nil_of_right_ne_nil before (List.cons_ne_nil _ _))
  | cons char text ih =>
      obtain ⟨head, tail, octets, _, inner⟩ := encodeChar_eq_cons char
      cases before with
      | nil => exact ⟨[], char :: text, rfl, same⟩
      | cons first others =>
          rw [encode_cons, octets, List.cons_append, List.cons_append] at same
          rcases List.append_eq_append_iff.mp (List.cons.inj same).2 with
            ⟨more, rfl, behind⟩ | ⟨more, cut, behind⟩
          · obtain ⟨earlier, later, whole, starting⟩ := ih behind
            exact ⟨char :: earlier, later, congrArg (char :: ·) whole, starting⟩
          -- Otherwise the octet would stand within the character, or right after it.
          · cases more with
            | nil =>
                obtain ⟨earlier, later, whole, starting⟩ :=
                  ih (show encode text = [] ++ octet :: rest from behind.symm)
                exact ⟨char :: earlier, later, congrArg (char :: ·) whole, starting⟩
            | cons own others =>
                obtain ⟨rfl, _⟩ := List.cons.inj behind
                rw [cut] at inner
                exact absurd (inner octet (List.mem_append_right _ List.mem_cons_self)) starts

private theorem isPrefix_of_encode {part text : List Char} {rest : List UInt8}
    (same : encode text = encode part ++ rest) : part <+: text := by
  induction part generalizing text with
  | nil => exact List.nil_prefix
  | cons char part ih =>
      rw [encode_cons, List.append_assoc] at same
      cases text with
      | nil =>
          obtain ⟨head, tail, octets, _⟩ := encodeChar_eq_cons char
          rw [octets] at same
          cases same
      | cons other text =>
          rw [encode_cons] at same
          obtain ⟨rfl, behind⟩ := (spelled_encodeChar other).spells.unique
            (spelled_encodeChar char).spells same
          exact List.cons_prefix_cons.mpr ⟨rfl, ih behind⟩

/-- The octets of a text occur among those of another exactly if the text occurs
in the other. -/
theorem encode_isInfix_iff {part text : List Char} (given : part ≠ []) :
    encode part <:+: encode text ↔ part <:+: text := by
  constructor
  · rintro ⟨before, after, same⟩
    cases part with
    | nil => exact absurd rfl given
    | cons char part =>
        obtain ⟨head, tail, octets, starts, _⟩ := encodeChar_eq_cons char
        rw [encode_cons, octets, List.append_assoc, List.cons_append, List.cons_append] at same
        obtain ⟨earlier, later, rfl, starting⟩ := exists_of_encode same.symm starts
        rw [← List.cons_append, ← List.cons_append, ← octets, ← encode_cons] at starting
        exact (isPrefix_of_encode starting).isInfix.trans (List.suffix_append earlier later).isInfix
  · rintro ⟨before, after, rfl⟩
    rw [encode_append, encode_append]
    exact ⟨encode before, encode after, rfl⟩

/-! ### Reading back -/

private theorem Spells.decodeFrom_append (spells : Spells char pending octets) (position : Nat)
    (done : List Char) (begun : Nat × UInt8) (rest : List UInt8) :
    ∃ latest, decodeFrom position done begun pending (octets ++ rest) =
      decodeFrom (position + octets.length) (char :: done) latest none rest := by
  induction spells generalizing position begun with
  | @last pending octet completes =>
      refine ⟨begun, ?_⟩
      cases pending with
      | none =>
          change first octet.toNat = _ at completes
          simp only [List.singleton_append, decodeFrom, completes, List.length_singleton]
      | some held =>
          change held.next octet.toNat = _ at completes
          simp only [List.singleton_append, decodeFrom, completes, List.length_singleton]
  | @more pending later octet octets continues tail ih =>
      rw [List.cons_append, List.length_cons, Nat.add_comm octets.length 1, ← Nat.add_assoc]
      cases pending with
      | none =>
          change first octet.toNat = _ at continues
          simp only [decodeFrom, continues]
          exact ih (position + 1) (position, octet)
      | some held =>
          change held.next octet.toNat = _ at continues
          simp only [decodeFrom, continues]
          exact ih (position + 1) begun

private theorem decodeFrom_encode (text : List Char) (position : Nat) (done : List Char)
    (begun : Nat × UInt8) :
    decodeFrom position done begun none (encode text) = .ok (done.reverse ++ text) := by
  induction text generalizing position done begun with
  | nil => exact congrArg Except.ok (List.append_nil _).symm
  | cons char text ih =>
      obtain ⟨latest, read⟩ :=
        (spelled_encodeChar char).spells.decodeFrom_append position done begun (encode text)
      rw [encode_cons, read, ih, List.reverse_cons, List.append_assoc, List.singleton_append]

theorem decode_encode (text : List Char) : decode (encode text) = .ok text :=
  decodeFrom_encode text 0 [] (0, 0)

theorem foldl_step_encode (text done : List Char) :
    (encode text).foldl Decoder.step ⟨done, none⟩ = ⟨text.reverse ++ done, none⟩ := by
  induction text generalizing done with
  | nil => rfl
  | cons char text ih =>
      rw [encode_cons, List.foldl_append, (spelled_encodeChar char).foldl_step, ih,
        List.reverse_cons, List.append_assoc, List.singleton_append]

theorem decodeLossy_encode (text : List Char) : decodeLossy (encode text) = text := by
  rw [decodeLossy, Decoder.start, foldl_step_encode, List.append_nil, Decoder.finish,
    Decoder.close, List.reverse_reverse]

theorem encode_injective {first second : List Char} (same : encode first = encode second) :
    first = second := by
  rw [← decodeLossy_encode first, same, decodeLossy_encode]

private theorem encode_intercalate {mark : Char} (ascii : mark.toNat < 0x80)
    (pieces : List (List Char)) :
    encode ([mark].intercalate pieces) =
      [UInt8.ofNat mark.toNat].intercalate (pieces.map encode) := by
  have between : encode [mark] = [UInt8.ofNat mark.toNat] := by
    rw [encode_cons, encodeChar_ascii ascii]
    rfl
  rw [← between]
  exact flatMap_intercalate String.utf8EncodeChar [mark] pieces

theorem splitOn_encode {mark : Char} (ascii : mark.toNat < 0x80) {pieces : List (List Char)}
    (given : pieces ≠ []) (unmarked : ∀ piece ∈ pieces, mark ∉ piece) :
    (encode ([mark].intercalate pieces)).splitOn (UInt8.ofNat mark.toNat) =
      pieces.map encode := by
  rw [encode_intercalate ascii]
  refine List.splitOn_intercalate _ ?_ fun none => given (List.map_eq_nil_iff.mp none)
  intro octets member within
  obtain ⟨piece, inside, rfl⟩ := List.mem_map.mp member
  obtain ⟨before, after, same⟩ := List.append_of_mem within
  have occurs : encode [mark] <:+: encode piece := by
    rw [encode_cons, encodeChar_ascii ascii, same]
    exact ⟨before, after, List.append_assoc _ _ _⟩
  have found := (encode_isInfix_iff (List.cons_ne_nil mark [])).mp occurs
  exact unmarked piece inside (found.mem List.mem_cons_self)

end Utf8

end Scep.Text
