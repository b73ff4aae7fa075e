import Scep.Checksum
import Scep.Exchange.PrefixCode

/-!
Compressed bodies, read octet by octet as they arrive.

A body comes in one of three wrappers around blocks of data.  The octets of a
wrapper and of stored data are read whole, and those of other blocks bit by bit,
from the lowest on.  What follows the end of the data is ignored.
-/

namespace Scep.Inflate

/-- What surrounds the blocks. -/
inductive Wrapper where
  | gzip
  | zlib
  | raw
  deriving DecidableEq, Repr

structure Sizes where
  literals : Nat
  distances : Nat
  lengths : Nat
  deriving DecidableEq, Repr

/-- What a number in a block is.  The lengths so far are given last first. -/
inductive Field where
  | head
  | sizes
  | length (sizes : Sizes) (lengths : List Nat)
  | repetition (sizes : Sizes) (code : PrefixCode) (lengths : List Nat) (symbol : Nat)
  | copied (symbol : Nat)
  | distance (copied symbol : Nat)
  deriving DecidableEq, Repr

inductive Use where
  | length (sizes : Sizes) (code : PrefixCode) (lengths : List Nat)
  | literal
  | distance (copied : Nat)
  deriving DecidableEq, Repr

/-- What the next bit or octet belongs to.  `seen` is what came before it in the
same field, the last one first. -/
inductive Stage where
  | magic (seen : List UInt8)
  | method (seen : List UInt8)
  /-- Time, effort and system, of which nothing is checked. -/
  | origin (left : Nat)
  | extraLength (seen : List UInt8)
  | extra (left : Nat)
  | fileName
  | comment
  | headerCheck (seen : List UInt8)
  | dictionary (left : Nat)
  | number (field : Field) (left : Nat) (seen : List Bool)
  | word (use : Use) (search : PrefixCode.Search)
  | length (seen : List UInt8)
  | data (left : Nat)
  | trailer (seen : List UInt8)
  | over
  deriving DecidableEq, Repr

def Stage.block : Stage := .number .head 3 []

structure Reader where
  wrapper : Wrapper
  stage : Stage
  flags : Nat := 0
  header : List UInt8 := []
  last : Bool := false
  literals : PrefixCode := {}
  distances : PrefixCode := {}
  crc : UInt32 := 0xFFFFFFFF
  adler : Nat × Nat := (1, 0)
  size : Nat := 0
  past : List UInt8 := []
  deriving Repr

def Reader.start : Wrapper → Reader
  | .raw => { wrapper := .raw, stage := .block }
  | wrapper => { wrapper, stage := .magic [] }

/-- The number written by octets, the last of them given first and the lowest
of them written first. -/
def littleEndian (seen : List UInt8) : Nat :=
  seen.foldl (fun value octet => value * 256 + octet.toNat) 0

def Reader.flag (reader : Reader) (mask : Nat) : Bool := reader.flags / mask % 2 == 1

def Reader.afterComment (reader : Reader) : Stage :=
  if reader.flag 2 then .headerCheck [] else .block

def Reader.afterName (reader : Reader) : Stage :=
  if reader.flag 16 then .comment else reader.afterComment

def Reader.afterExtra (reader : Reader) : Stage :=
  if reader.flag 8 then .fileName else reader.afterName

def Reader.afterOrigin (reader : Reader) : Stage :=
  if reader.flag 4 then .extraLength [] else reader.afterExtra

def Reader.afterBlock (reader : Reader) : Stage :=
  if !reader.last then .block
  else match reader.wrapper with
    | .raw => .over
    | _ => .trailer []

def Reader.openWrapper (reader : Reader) (first second : UInt8) : Except String Reader :=
  match reader.wrapper with
  | .gzip =>
    if first = 0x1F ∧ second = 0x8B then
      .ok { reader with stage := .method [], header := [second, first] }
    else .error "incorrect header check"
  | _ =>
    if (first.toNat * 256 + second.toNat) % 31 ≠ 0 then .error "incorrect header check"
    else if first.toNat % 16 ≠ 8 then .error "unknown compression method"
    else if 7 < first.toNat / 16 then .error "invalid window size"
    else if second.toNat / 32 % 2 = 1 then .ok { reader with stage := .dictionary 4 }
    else .ok { reader with stage := .block }

/-! ### Data -/

def Reader.emit (reader : Reader) (octet : UInt8) : Reader :=
  { reader with
    crc := Checksum.crcOctet reader.crc octet
    adler := Checksum.adlerOctet reader.adler octet
    size := reader.size + 1
    past := octet :: reader.past }

/-- Copies data from some way back.  What is copied may be copied again. -/
def Reader.copy (reader : Reader) (distance : Nat) : Nat → Reader × List UInt8
  | 0 => (reader, [])
  | left + 1 =>
    match reader.past[distance - 1]? with
    | none => (reader, [])
    | some octet =>
      let (next, data) := (reader.emit octet).copy distance left
      (next, octet :: data)

/-! ### Bits -/

abbrev Step := Except String (Reader × List UInt8)

def Reader.enter (reader : Reader) (stage : Stage) : Step := .ok ({ reader with stage }, [])

def Reader.nextLiteral (reader : Reader) : Reader :=
  { reader with stage := .word .literal reader.literals.search }

def lengthOrder : List Nat := [16, 17, 18, 0, 8, 7, 9, 6, 10, 5, 11, 4, 12, 3, 13, 2, 14, 1, 15]

def Reader.afterLengths (reader : Reader) (sizes : Sizes) (code : PrefixCode)
    (lengths : List Nat) : Step :=
  let total := sizes.literals + sizes.distances
  if total < lengths.length then .error "invalid bit length repeat"
  else if lengths.length < total then
    reader.enter (.word (.length sizes code lengths) code.search)
  else
    let lengths := lengths.reverse
    let literals := PrefixCode.ofLengths (lengths.take sizes.literals)
    let distances := PrefixCode.ofLengths (lengths.drop sizes.literals)
    if lengths[256]? == some 0 then .error "invalid code -- missing end-of-block"
    else if !literals.isUsable true then .error "invalid literal/lengths set"
    else if !distances.isUsable true then .error "invalid distances set"
    else .ok ({ reader with literals, distances }.nextLiteral, [])

def Reader.afterCopied (reader : Reader) (copied : Nat) : Step :=
  reader.enter (.word (.distance copied) reader.distances.search)

def Reader.afterDistance (reader : Reader) (copied distance : Nat) : Step :=
  if reader.size < distance then .error "invalid distance too far back"
  else
    let (next, data) := reader.copy distance copied
    .ok (next.nextLiteral, data)

def Reader.takeNumber (reader : Reader) (number : Nat) : Field → Step
  | .head =>
    let reader := { reader with last := number % 2 == 1 }
    match number / 2 with
    | 0 => reader.enter (.length [])
    | 1 =>
      .ok ({ reader with
        literals := PrefixCode.fixedLiterals
        distances := PrefixCode.fixedDistances }.nextLiteral, [])
    | 2 => reader.enter (.number .sizes 14 [])
    | _ => .error "invalid block type"
  | .sizes =>
    let sizes : Sizes := ⟨number % 32 + 257, number / 32 % 32 + 1, number / 1024 + 4⟩
    if 286 < sizes.literals ∨ 30 < sizes.distances then
      .error "too many length or distance symbols"
    else reader.enter (.number (.length sizes []) 3 [])
  | .length sizes lengths =>
    let lengths := number :: lengths
    if lengths.length < sizes.lengths then reader.enter (.number (.length sizes lengths) 3 [])
    else
      let given := lengthOrder.zip lengths.reverse
      let code := PrefixCode.ofLengths
        ((List.range 19).map fun symbol => (given.lookup symbol).getD 0)
      if code.isUsable false then reader.afterLengths sizes code []
      else .error "invalid code lengths set"
  | .repetition sizes code lengths symbol =>
    if symbol = 16 then
      match lengths with
      | [] => .error "invalid bit length repeat"
      | length :: _ =>
        reader.afterLengths sizes code (List.replicate (number + 3) length ++ lengths)
    else
      let count := if symbol = 17 then number + 3 else number + 11
      reader.afterLengths sizes code (List.replicate count 0 ++ lengths)
  | .copied symbol => reader.afterCopied (PrefixCode.lengthBase symbol + number)
  | .distance copied symbol =>
    reader.afterDistance copied (PrefixCode.distanceBase symbol + number)

def Reader.takeSymbol (reader : Reader) (symbol : Nat) : Use → Step
  | .length sizes code lengths =>
    if symbol < 16 then reader.afterLengths sizes code (symbol :: lengths)
    else
      let width := if symbol = 16 then 2 else if symbol = 17 then 3 else 7
      reader.enter (.number (.repetition sizes code lengths symbol) width [])
  | .literal =>
    if symbol < 256 then
      let octet := UInt8.ofNat symbol
      .ok ((reader.emit octet).nextLiteral, [octet])
    else if symbol = 256 then reader.enter reader.afterBlock
    else if 285 < symbol then .error "invalid literal/length code"
    else if PrefixCode.lengthWidth symbol = 0 then
      reader.afterCopied (PrefixCode.lengthBase symbol)
    else reader.enter (.number (.copied symbol) (PrefixCode.lengthWidth symbol) [])
  | .distance copied =>
    if 29 < symbol then .error "invalid distance code"
    else if PrefixCode.distanceWidth symbol = 0 then
      reader.afterDistance copied (PrefixCode.distanceBase symbol)
    else reader.enter (.number (.distance copied symbol) (PrefixCode.distanceWidth symbol) [])

/-- Goes on where no word of a code begins with the bits read.  A code for lengths
without any symbols stands for zeros. -/
def Reader.takeNothing (reader : Reader) : Use → Step
  | .length sizes code lengths => reader.afterLengths sizes code (0 :: lengths)
  | .literal => .error "invalid literal/length code"
  | .distance _ => .error "invalid distance code"

/-- Reads on bit by bit, as far as the bits belong to a block. -/
def Reader.takeBits (reader : Reader) (done : List UInt8) : List Bool → Step
  | [] => .ok (reader, done)
  | bit :: rest => do
    let (next, data) ←
      match reader.stage with
      | .number field left seen =>
        if left ≤ 1 then
          reader.takeNumber ((bit :: seen).foldl (fun value bit => 2 * value + bit.toNat) 0) field
        else reader.enter (.number field (left - 1) (bit :: seen))
      | .word use search =>
        match search.next bit with
        | .symbol symbol => reader.takeSymbol symbol use
        | .further search => reader.enter (.word use search)
        | .nothing => reader.takeNothing use
      | _ => return (reader, done)
    next.takeBits (done ++ data) rest

/-! ### Octets -/

def Reader.step (reader : Reader) (octet : UInt8) : Step :=
  let advance := fun stage : Stage =>
    { reader with header := octet :: reader.header }.enter stage
  match reader.stage with
  | .magic [] => reader.enter (.magic [octet])
  | .magic (first :: _) => (reader.openWrapper first octet).map fun next => (next, [])
  | .method [] => advance (.method [octet])
  | .method (method :: _) =>
    if method ≠ 8 then .error "unknown compression method"
    else if 32 ≤ octet.toNat then .error "unknown header flags set"
    else
      .ok ({ reader with
        stage := .origin 6, flags := octet.toNat, header := octet :: reader.header }, [])
  | .origin left => advance (if left ≤ 1 then reader.afterOrigin else .origin (left - 1))
  | .extraLength [] => advance (.extraLength [octet])
  | .extraLength seen =>
    let length := littleEndian (octet :: seen)
    advance (if length = 0 then reader.afterExtra else .extra length)
  | .extra left => advance (if left ≤ 1 then reader.afterExtra else .extra (left - 1))
  | .fileName => advance (if octet = 0 then reader.afterName else .fileName)
  | .comment => advance (if octet = 0 then reader.afterComment else .comment)
  | .headerCheck [] => reader.enter (.headerCheck [octet])
  | .headerCheck seen =>
    if littleEndian (octet :: seen) = Checksum.crc32 reader.header.reverse % 65536 then
      reader.enter .block
    else .error "header crc mismatch"
  | .dictionary left => if left ≤ 1 then .error "" else reader.enter (.dictionary (left - 1))
  | .number .. | .word .. =>
    reader.takeBits [] ((List.range 8).map fun place => octet.toNat.testBit place)
  | .length seen =>
    if seen.length < 3 then reader.enter (.length (octet :: seen))
    else
      let both := littleEndian (octet :: seen)
      let length := both % 65536
      if length + both / 65536 ≠ 65535 then .error "invalid stored block lengths"
      else if length = 0 then reader.enter reader.afterBlock
      else reader.enter (.data length)
  | .data left =>
    .ok ({ reader.emit octet with
      stage := if left ≤ 1 then reader.afterBlock else .data (left - 1) }, [octet])
  | .trailer seen =>
    let all := octet :: seen
    match reader.wrapper with
    | .gzip =>
      if all.length = 4 ∧ littleEndian all ≠ (reader.crc ^^^ 0xFFFFFFFF).toNat then
        .error "incorrect data check"
      else if all.length = 8 then
        if littleEndian (all.take 4) ≠ reader.size % 4294967296 then
          .error "incorrect length check"
        else reader.enter .over
      else reader.enter (.trailer all)
    | _ =>
      if all.length = 4 then
        if littleEndian all.reverse ≠ reader.adler.2 * 65536 + reader.adler.1 then
          .error "incorrect data check"
        else reader.enter .over
      else reader.enter (.trailer all)
  | .over => .ok (reader, [])

def refusal (reason : String) : String :=
  if reason.isEmpty then "Error 2 while decompressing data"
  else "Error -3 while decompressing data: " ++ reason

def Reader.feedOnto (reader : Reader) (done : List UInt8) :
    List UInt8 → Except String (Reader × List UInt8)
  | [] => .ok (reader, done.reverse)
  | octet :: rest =>
    match reader.step octet with
    | .error reason => .error (refusal reason)
    | .ok (next, data) => next.feedOnto (data.reverse ++ done) rest

def Reader.feed (reader : Reader) (piece : List UInt8) : Except String (Reader × List UInt8) :=
  reader.feedOnto [] piece

end Scep.Inflate
