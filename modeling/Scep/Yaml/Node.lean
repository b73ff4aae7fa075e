import Scep.Yaml.Token

/-!
The tree of a document: scalars, sequences and mappings with their tags, each
alias being replaced by the node that it names.
-/

namespace Scep.Yaml

inductive Node where
  | scalar (tag : Option (List Char)) (text : List Char) (untyped : Bool)
  | sequence (tag : Option (List Char)) (items : List Node)
  | mapping (tag : Option (List Char)) (entries : List (Node × Node))
  /-- An alias inside the node that it names. -/
  | cycle
  deriving Inhabited

structure Source where
  tokens : List Token
  handles : List (List Char × List Char)
  /-- The nodes that have been named; the node of an open one is being read. -/
  anchors : List (List Char × Option Node) := []

abbrev Composing := StateT Source Option

namespace Composing

def peek : Composing (Option Token) := return (← get).tokens.head?

def skip : Composing Unit := modify fun source => { source with tokens := source.tokens.tail }

def expect (token : Token) : Composing Unit := do
  if (← peek) == some token then skip else failure

def accept (token : Token) : Composing Bool := do
  if (← peek) == some token then skip *> return true else return false

def at? (tokens : List Token) : Composing Bool := return (← peek).any tokens.contains

end Composing

open Composing

def Node.empty : Node := .scalar none [] true

def fullTag (name : TagName) : Composing (List Char) := do
  match name.handle with
  | none => return name.suffix
  | some handle =>
    match (← get).handles.find? fun entry => entry.1 == handle with
    | some (_, lead) => return lead ++ name.suffix
    | none => failure

def properties : Composing (Option (List Char) × Option TagName) := do
  match ← peek with
  | some (.anchor name) =>
    skip
    match ← peek with
    | some (.tag tag) => skip *> return (some name, some tag)
    | _ => return (some name, none)
  | some (.tag tag) =>
    skip
    match ← peek with
    | some (.anchor name) => skip *> return (some name, some tag)
    | _ => return (none, some tag)
  | _ => return (none, none)

def openAnchor (name : List Char) : Composing Unit := do
  let source ← get
  if source.anchors.any fun entry => entry.1 == name then failure
  else set { source with anchors := (name, none) :: source.anchors }

def closeAnchor (name : List Char) (node : Node) : Composing Unit :=
  modify fun source => { source with
    anchors := source.anchors.map fun entry =>
      if entry.1 == name then (name, some node) else entry }

def aliased (name : List Char) : Composing Node := do
  match (← get).anchors.find? fun entry => entry.1 == name with
  | some (_, some node) => return node
  | some (_, none) => return .cycle
  | none => failure

mutual

/-- A node.  `block` says whether collections of lines may stand here, and
`level` whether a sequence may that is not indented further. -/
def node (block level : Bool) : Nat → Composing Node
  | 0 => failure
  | fuel + 1 => do
    match ← peek with
    | some (.alias name) => skip *> aliased name
    | _ =>
      let (anchor, tag) ← properties
      let tag ← tag.mapM fullTag
      anchor.forM openAnchor
      let special := if tag = some ['!'] then none else tag
      let content : Composing Node := do
        match ← peek with
        | some .blockEntry =>
          if level then return .sequence special (← levelItems [] fuel)
          else if anchor.isSome || tag.isSome then return .scalar special [] special.isNone
          else failure
        | some (.scalar text plain) =>
          skip
          return .scalar special text (special.isNone && (plain || tag.isSome))
        | some .flowSequence => skip *> return .sequence special (← flowItems [] fuel)
        | some .flowMapping => skip *> return .mapping special (← flowEntries [] fuel)
        | next =>
          if block && next == some .blockSequence then
            skip *> return .sequence special (← lineItems [] fuel)
          else if block && next == some .blockMapping then
            skip *> return .mapping special (← lineEntries [] fuel)
          else if anchor.isSome || tag.isSome then return .scalar special [] special.isNone
          else failure
      let node ← content
      anchor.forM fun name => closeAnchor name node
      return node

def nodeUnless (ends : List Token) (block level : Bool) : Nat → Composing Node
  | 0 => failure
  | fuel + 1 => do
    if ← at? ends then return .empty else node block level fuel

def lineItems (done : List Node) : Nat → Composing (List Node)
  | 0 => failure
  | fuel + 1 => do
    if ← accept .blockEntry then
      let item ← nodeUnless [.blockEntry, .blockEnd] true false fuel
      lineItems (item :: done) fuel
    else
      expect .blockEnd
      return done.reverse

def levelItems (done : List Node) : Nat → Composing (List Node)
  | 0 => failure
  | fuel + 1 => do
    if ← accept .blockEntry then
      let item ← nodeUnless [.blockEntry, .key, .value, .blockEnd] true false fuel
      levelItems (item :: done) fuel
    else return done.reverse

def lineEntries (done : List (Node × Node)) : Nat → Composing (List (Node × Node))
  | 0 => failure
  | fuel + 1 => do
    if ← accept .key then
      let ends := [.key, .value, .blockEnd]
      let key ← nodeUnless ends true true fuel
      let value ←
        if ← accept .value then nodeUnless ends true true fuel else pure .empty
      lineEntries ((key, value) :: done) fuel
    else
      expect .blockEnd
      return done.reverse

/-- The items of a flow sequence.  An item with a key is a mapping of its own. -/
def flowItems (done : List Node) : Nat → Composing (List Node)
  | 0 => failure
  | fuel + 1 => do
    if ← accept .flowSequenceEnd then return done.reverse
    else
      if !done.isEmpty then expect .flowEntry
      if ← accept .key then
        let entry ← flowEntry .flowSequenceEnd fuel
        flowItems (.mapping none [entry] :: done) fuel
      else if ← accept .flowSequenceEnd then return done.reverse
      else
        let item ← node false false fuel
        flowItems (item :: done) fuel

def flowEntry (ends : Token) : Nat → Composing (Node × Node)
  | 0 => failure
  | fuel + 1 => do
    let key ← nodeUnless [.value, .flowEntry, ends] false false fuel
    let value ←
      if ← accept .value then nodeUnless [.flowEntry, ends] false false fuel else pure .empty
    return (key, value)

def flowEntries (done : List (Node × Node)) : Nat → Composing (List (Node × Node))
  | 0 => failure
  | fuel + 1 => do
    if ← accept .flowMappingEnd then return done.reverse
    else
      if !done.isEmpty then expect .flowEntry
      if ← accept .key then
        let entry ← flowEntry .flowMappingEnd fuel
        flowEntries (entry :: done) fuel
      else if ← accept .flowMappingEnd then return done.reverse
      else
        let key ← node false false fuel
        flowEntries ((key, .empty) :: done) fuel

end

/-! ### Documents -/

def commonHandles : List (List Char × List Char) :=
  [(['!'], ['!']), (['!', '!'], "tag:yaml.org,2002:".toList)]

/-- The tag handles of the directives before a document.  There is at most one
version, whose first number is one, and one directive for a handle. -/
def directives (versioned : Bool) (handles : List (List Char × List Char)) :
    List Token → Option (List (List Char × List Char) × List Token)
  | .directive (.version major) :: rest =>
    if versioned || major != 1 then none else directives true handles rest
  | .directive (.tag handle lead) :: rest =>
    if handles.any fun entry => entry.1 == handle then none
    else directives versioned ((handle, lead) :: handles) rest
  | .directive .unknown :: rest => directives versioned handles rest
  | rest => some (handles, rest)

def onlyNode (handles : List (List Char × List Char)) (tokens : List Token) : Option Node := do
  let (node, source) ← (node true false (4 * tokens.length + 8)).run { tokens, handles }
  if source.tokens.all (· == .documentEnd) then some node else none

def Node.ofTokens? (tokens : List Token) : Option (Option Node) := do
  match tokens with
  | [] => some none
  | .directive _ :: _ | .documentStart :: _ =>
    let (handles, rest) ← directives false [] tokens
    match rest with
    | .documentStart :: rest =>
      match rest with
      | [] | .directive _ :: _ | .documentStart :: _ | .documentEnd :: _ =>
        if rest.all (· == .documentEnd) then some (some .empty) else none
      | _ => some <$> onlyNode (handles ++ commonHandles) rest
    | _ => none
  | _ => some <$> onlyNode commonHandles tokens

end Scep.Yaml
