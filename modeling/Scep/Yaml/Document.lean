import Scep.Yaml.Kind
import Scep.Yaml.Node

/-!
The value of a document.

A text may hold printable characters and line breaks, and one document.  The
entries that a mapping takes from others come before its own, and those named
first come last, so that a later entry stands above an earlier one of its name.
-/

namespace Scep.Yaml

def Node.kind? : Node → Option Kind
  | .scalar tag text untyped =>
    match tag with
    | some tag => Kind.ofTag? tag
    | none => some (if untyped then Kind.ofText text else .text)
  | .sequence tag _ => match tag with
    | some tag => Kind.ofTag? tag
    | none => some .sequence
  | .mapping tag _ => match tag with
    | some tag => Kind.ofTag? tag
    | none => some .mapping
  | .cycle => none

def isKey : Value → Bool
  | .list _ | .table _ => false
  | _ => true

mutual

def allEntries (entries : List (Node × Node)) : Nat → Except Flaw (List (Node × Node))
  | 0 => .error .malformed
  | fuel + 1 => do
    let isMerge := fun entry : Node × Node => entry.1.kind? == some .merge
    let taken ← (entries.filter isMerge).mapM fun entry => mergedEntries entry.2 fuel
    return taken.flatten ++ entries.filter fun entry => !isMerge entry

def mergedEntries (source : Node) : Nat → Except Flaw (List (Node × Node))
  | 0 => .error .malformed
  | fuel + 1 =>
    match source with
    | .mapping _ entries => allEntries entries fuel
    | .sequence _ items => do
      let lists ← items.mapM fun item =>
        match item with
        | .mapping _ entries => allEntries entries fuel
        | _ => .error .malformed
      return lists.reverse.flatten
    | _ => .error .malformed

end

def keyValue (read : Node → Except Flaw Value) (key : Node) : Except Flaw Value := do
  let value ←
    match key, key.kind? with
    | .scalar _ text _, some .standing => .ok (.text (String.ofList text))
    | .cycle, _ => .error .malformed
    | _, _ => read key
  if isKey value then return value else throw .malformed

def Node.value (node : Node) : Nat → Except Flaw Value
  | 0 => .error .malformed
  | fuel + 1 =>
    let valueOf := fun node : Node => node.value fuel
    let entryValue := fun entry : Node × Node => do
      let key ← keyValue valueOf entry.1
      return (key, ← valueOf entry.2)
    match node, node.kind? with
    | .cycle, _ => .ok .other
    | .scalar _ text _, some kind => kind.read text
    | .sequence _ items, some .sequence => Value.list <$> items.mapM valueOf
    | .sequence _ items, some .pairs => do
      let pairs ← items.mapM fun item =>
        match item with
        | .mapping _ [entry] => do
          let _ ← valueOf entry.1
          let _ ← valueOf entry.2
          return .other
        | _ => .error .malformed
      return .list pairs
    | .mapping _ entries, some .mapping => do
      let entries ← allEntries entries fuel
      Value.table <$> entries.mapM entryValue
    | .mapping _ entries, some .keys => do
      let entries ← allEntries entries fuel
      let entries ← entries.mapM entryValue
      return .list (entries.map Prod.fst)
    | _, _ => .error .malformed

def isAllowed (char : Char) : Bool :=
  let value := char.toNat
  value == 0x09 || value == 0x0A || value == 0x0D || (0x20 ≤ value && value ≤ 0x7E) ||
    value == 0x85 || (0xA0 ≤ value && value ≤ 0xD7FF) || (0xE000 ≤ value && value ≤ 0xFFFD) ||
    0x10000 ≤ value

def unifyBreaks (done : List Char) : List Char → List Char
  | [] => done.reverse
  | '\r' :: '\n' :: rest => unifyBreaks ('\n' :: done) rest
  | char :: rest => unifyBreaks ((if char = '\r' then '\n' else char) :: done) rest

def read (text : List Char) : Except Flaw Value :=
  let text := unifyBreaks [] text
  if !text.all isAllowed then .error .malformed
  else
    match (tokens text).bind Node.ofTokens? with
    | none => .error .malformed
    | some none => .ok .null
    | some (some node) => node.value (2 * text.length + 8)

end Scep.Yaml
