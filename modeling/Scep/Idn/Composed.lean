import Scep.Idn.Table.Composition

/-!
The composed form of a text: every character that can be part of a composite
is, and marks stand in the order of their classes.
-/

namespace Scep.Idn

def combiningClass (codepoint : Nat) : Nat :=
  ((Table.combiningClasses.find? fun run =>
    run.1 ≤ codepoint && codepoint ≤ run.2.1).map fun run => run.2.2).getD 0

/-! ### Taking apart -/

/-- The parts of a syllable block of Hangul, which are computed. -/
def hangulParts? (codepoint : Nat) : Option (List Nat) :=
  if 0xAC00 ≤ codepoint ∧ codepoint < 0xAC00 + 11172 then
    let index := codepoint - 0xAC00
    let last := index % 28
    some ([0x1100 + index / 588, 0x1161 + index % 588 / 28] ++
      if last = 0 then [] else [0x11A7 + last])
  else none

/-- Takes a code point apart in front of those that follow.  Composites are
nested at most four deep. -/
def decomposeOnto : Nat → List Nat → Nat → List Nat
  | 0, after, codepoint => codepoint :: after
  | depth + 1, after, codepoint =>
    match hangulParts? codepoint with
    | some parts => parts ++ after
    | none =>
      match Table.composites.find? fun entry => entry.1 == codepoint with
      | none => codepoint :: after
      | some (_, first, 0) => decomposeOnto depth after first
      | some (_, first, second) =>
        decomposeOnto depth (decomposeOnto depth after second) first

/-- Puts a code point in front of a text in order: a mark goes past the marks
of lower classes that the text starts with. -/
def insertMark (codepoint : Nat) : List Nat → List Nat
  | [] => [codepoint]
  | next :: rest =>
    if combiningClass codepoint ≠ 0 ∧ combiningClass next ≠ 0 ∧
        combiningClass next < combiningClass codepoint then
      next :: insertMark codepoint rest
    else codepoint :: next :: rest

def decompose (text : List Nat) : List Nat :=
  (text.foldr (fun codepoint after => decomposeOnto 5 after codepoint) []).foldr insertMark []

/-! ### Putting together -/

def compose? (first second : Nat) : Option Nat :=
  if 0x1100 ≤ first ∧ first < 0x1113 ∧ 0x1161 ≤ second ∧ second < 0x1176 then
    some (0xAC00 + ((first - 0x1100) * 21 + (second - 0x1161)) * 28)
  else if 0xAC00 ≤ first ∧ first < 0xAC00 + 11172 ∧ (first - 0xAC00) % 28 = 0 ∧
      0x11A7 < second ∧ second < 0x11C3 then
    some (first + (second - 0x11A7))
  else
    (Table.composites.find? fun entry =>
      entry.2.1 == first && entry.2.2 == second && second != 0 &&
        !Table.neverComposed.contains entry.1).map Prod.fst

/-- A composer inside a text: the last character that marks can join, and the
marks after it that did not, last first. -/
structure Composer where
  done : List Nat
  base : Option Nat
  after : List Nat

def Composer.close (composer : Composer) : List Nat :=
  match composer.base with
  | none => composer.after ++ composer.done
  | some base => composer.after ++ base :: composer.done

/-- Takes up one code point.  It joins the base if no mark of its class or a
higher one stands between. -/
def Composer.step (composer : Composer) (codepoint : Nat) : Composer :=
  let rank := combiningClass codepoint
  let reaches := match composer.after with
    | [] => true
    | nearest :: _ => combiningClass nearest < rank
  let joined := if reaches then composer.base.bind fun base => compose? base codepoint else none
  match joined with
  | some composite => { composer with base := some composite }
  | none =>
    if rank = 0 then ⟨composer.close, some codepoint, []⟩
    else { composer with after := codepoint :: composer.after }

def composed (text : List Nat) : List Nat :=
  ((decompose text).foldl Composer.step ⟨[], none, []⟩).close.reverse

def isComposed (text : List Char) : Bool :=
  let codepoints := text.map Char.toNat
  codepoints.all (· < 0x80) || composed codepoints == codepoints

end Scep.Idn
