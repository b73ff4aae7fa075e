/-!
Prefix codes for the symbols of compressed data.

A code is given by the lengths of its words: shorter words come first, and words
of one length are in the order of their symbols.
-/

namespace Scep

/-- The symbols with words of one bit, those with words of two, and so on. -/
structure PrefixCode where
  levels : List (List Nat) := []
  deriving DecidableEq, Repr

namespace PrefixCode

def longest : Nat := 15

/-- The code in which each symbol has a word of the length given for it, and no word
if that is zero. -/
def ofLengths (lengths : List Nat) : PrefixCode :=
  ⟨(List.range longest).map fun shorter =>
    (lengths.zipIdx.filter fun pair => pair.1 == shorter + 1).map Prod.snd⟩

def free? (code : PrefixCode) : Option Nat :=
  code.levels.foldlM (fun free level =>
    if 2 * free < level.length then none else some (2 * free - level.length)) 1

/-- Whether a code can be used: it has no symbols, or no words left over, or nothing
but words of one bit where that is allowed. -/
def isUsable (code : PrefixCode) (allowsOne : Bool) : Bool :=
  code.levels.all List.isEmpty || code.free? == some 0 ||
    (allowsOne && code.free?.isSome && (code.levels.drop 1).all List.isEmpty)

/-- A place in a code: how far the bits read are beyond the words of their number, and
the symbols with longer words. -/
structure Search where
  offset : Nat := 0
  deeper : List (List Nat)
  deriving DecidableEq, Repr

def search (code : PrefixCode) : Search := { deeper := code.levels }

inductive Search.Found where
  | symbol (symbol : Nat)
  | further (search : Search)
  | nothing
  deriving DecidableEq, Repr

def Search.next (search : Search) (bit : Bool) : Found :=
  let offset := 2 * search.offset + bit.toNat
  match search.deeper with
  | [] => .nothing
  | level :: deeper =>
    match level[offset]? with
    | some symbol => .symbol symbol
    | none => if deeper.all List.isEmpty then .nothing else .further ⟨offset - level.length, deeper⟩

/-! ### Codes that are fixed -/

def fixedLiterals : PrefixCode :=
  ofLengths (List.replicate 144 8 ++ List.replicate 112 9 ++ List.replicate 24 7 ++
    List.replicate 8 8)

def fixedDistances : PrefixCode := ofLengths (List.replicate 32 5)

/-! ### Symbols that stand for numbers -/

def lengthWidth (symbol : Nat) : Nat :=
  if symbol < 265 ∨ symbol = 285 then 0 else (symbol - 257) / 4 - 1

def lengthBase (symbol : Nat) : Nat :=
  if symbol = 285 then 258
  else if symbol < 265 then symbol - 254
  else ((4 + (symbol - 257) % 4) <<< lengthWidth symbol) + 3

def distanceWidth (symbol : Nat) : Nat := symbol / 2 - 1

def distanceBase (symbol : Nat) : Nat :=
  if symbol < 4 then symbol + 1 else ((2 + symbol % 2) <<< distanceWidth symbol) + 1

end PrefixCode

end Scep
