import Typeset.Yaml.Tag
import Typeset.Yaml.Tokens

/-!
# Nodes

The tokens of a text form a tree of nodes: scalars, sequences and mappings, each
with its tag. A node that is left out is a scalar without text. An alias stands
for the node that its anchor marks, which has to be complete before.
-/

namespace Typeset.Yaml

inductive Node where
  | scalar (tag text : String)
  | sequence (tag : String) (items : List Node)
  | mapping (tag : String) (entries : List (Node × Node))
  deriving Inhabited

/-- Tokens on their way to become nodes. -/
structure Composing where
  tokens : List Token
  /-- The fault behind the last of the tokens. -/
  fault : Option Fault
  handles : List (String × String)
  /--
  The anchored nodes with their sizes; one that is not complete yet has an entry without them.
  -/
  anchors : List (String × Option (Node × Nat))
  /-- The number of nodes so far, those that aliases stand for included. -/
  size : Nat
  /-- The number of nodes that aliases stand for. -/
  repeated : Nat
  /-- Whether an alias stands within the node that it stands for. -/
  endless : Bool

abbrev Compose (α : Type) := StateT Composing (Except Fault) α

namespace Composing

def peek : Compose Token := do
  let composing ← get
  match composing.tokens with
  | token :: _ => return token
  | [] => throw (composing.fault.getD .token)

/-- Go behind the next token. -/
def advance : Compose Unit :=
  modify fun composing => { composing with tokens := composing.tokens.drop 1 }

/-- Go behind the next token if it is the given one; the answer tells whether it is. -/
def accept (token : Token) : Compose Bool := do
  if (← peek) = token then
    advance
    return true
  else return false

def sees (tokens : List Token) : Compose Bool := do
  return (← peek) ∈ tokens

def count (nodes : Nat) : Compose Unit :=
  modify fun composing => { composing with size := composing.size + nodes }

def leftOut : Node :=
  .scalar (Tag.ofPlain "") ""

/-! ## Properties of nodes -/

/-- An anchor, if the next token is one. -/
def readAnchor : Compose (Option String) := do
  match ← peek with
  | .anchor name =>
      advance
      return some name
  | _ => return none

/-- A written tag, if the next token is one. -/
def readTag : Compose (Option (Option String × String)) := do
  match ← peek with
  | .tag handle rest =>
      advance
      return some (handle, rest)
  | _ => return none

/-- Anchor and tag of a node, in any order. -/
def readProperties : Compose (Option String × Option (Option String × String)) := do
  match ← readAnchor with
  | some name => return (some name, ← readTag)
  | none =>
      match ← readTag with
      | some tag => return (← readAnchor, some tag)
      | none => return (none, none)

/-- The full tag that a written one stands for. -/
def fullTag (tag : Option String × String) : Compose String := do
  match tag with
  | (none, rest) => return rest
  | (some handle, rest) =>
      match ((← get).handles.find? (·.1 == handle)).map (·.2) with
      | some start => return start ++ rest
      | none => throw .arrangement

/--
Remember that an anchor was met; no other node has it. The answer is the size before the node.
-/
def openAnchor (anchor : Option String) : Compose Nat := do
  let composing ← get
  match anchor with
  | none => pure ()
  | some name =>
      if composing.anchors.any (·.1 == name) then throw .composition
      set { composing with anchors := (name, none) :: composing.anchors }
  count 1
  return composing.size

/-- Remember the node of an anchor, before which there were so many nodes. -/
def closeAnchor (anchor : Option String) (before : Nat) (node : Node) : Compose Node := do
  match anchor with
  | none => return node
  | some name =>
      modify fun composing =>
        { composing with
          anchors := (name, some (node, composing.size - before)) ::
            composing.anchors.filter (·.1 ≠ name) }
      return node

/-- The node that an alias stands for; within that node itself it stands for nothing. -/
def aliased (name : String) : Compose Node := do
  match ((← get).anchors.find? (·.1 == name)).map (·.2) with
  | none => throw .composition
  | some none =>
      modify fun composing => { composing with endless := true }
      return leftOut
  | some (some (node, size)) =>
      count size
      modify fun composing => { composing with repeated := composing.repeated + size }
      return node

/-- The tag of a node, or the usual one when none was written that says anything. -/
def tagOr (tag : Option String) (usual : String) : String :=
  match tag with
  | none | some "!" => usual
  | some tag => tag

/-! ## Nodes -/

/--
Which nodes may stand at a place besides those of flow: all,
and those of a sequence without indentation.
-/
inductive Style where
  | flow
  | block
  | entryOrBlock
  deriving DecidableEq

mutual
def readNode (style : Style) : Nat → Compose Node
  | 0 => throw .arrangement
  | fuel + 1 => do
      match ← peek with
      | .alias name =>
          advance
          aliased name
      | _ =>
          let (anchor, written) ← readProperties
          let _ ← peek
          let tag ← written.mapM fullTag
          readContent style anchor tag fuel

def readContent (style : Style) (anchor tag : Option String) : Nat → Compose Node
  | 0 => throw .arrangement
  | fuel + 1 => do
      match ← peek with
      | .scalar text plain =>
          advance
          let before ← openAnchor anchor
          let usual := if (plain ∧ tag = none) ∨ tag = some "!" then Tag.ofPlain text else Tag.text
          closeAnchor anchor before (.scalar (tagOr tag usual) text)
      | .flowSequenceStart =>
          advance
          let before ← openAnchor anchor
          let items ← readFlowItems true fuel
          closeAnchor anchor before (.sequence (tagOr tag Tag.sequence) items)
      | .flowMappingStart =>
          advance
          let before ← openAnchor anchor
          let entries ← readFlowEntries true fuel
          closeAnchor anchor before (.mapping (tagOr tag Tag.mapping) entries)
      | token =>
          if token = .blockEntry ∧ style = .entryOrBlock then
            let before ← openAnchor anchor
            let items ← readOpenItems fuel
            closeAnchor anchor before (.sequence (tagOr tag Tag.sequence) items)
          else if token = .blockSequenceStart ∧ style ≠ .flow then
            advance
            let before ← openAnchor anchor
            let items ← readItems fuel
            closeAnchor anchor before (.sequence (tagOr tag Tag.sequence) items)
          else if token = .blockMappingStart ∧ style ≠ .flow then
            advance
            let before ← openAnchor anchor
            let entries ← readEntries fuel
            closeAnchor anchor before (.mapping (tagOr tag Tag.mapping) entries)
          else if anchor.isSome ∨ tag.isSome then
            let before ← openAnchor anchor
            let usual := if tag.isSome then Tag.text else Tag.null
            closeAnchor anchor before (.scalar (tagOr tag usual) "")
          else throw .arrangement

/-- A node, or the one that is left out before some tokens. -/
def readUnless (style : Style) (ends : List Token) : Nat → Compose Node
  | 0 => throw .arrangement
  | fuel + 1 => do
      if ← sees ends then return leftOut else readNode style fuel

def readItems : Nat → Compose (List Node)
  | 0 => throw .arrangement
  | fuel + 1 => do
      if ← accept .blockEntry then
        let item ← readUnless .block [.blockEntry, .blockEnd] fuel
        return item :: (← readItems fuel)
      else if ← accept .blockEnd then return []
      else throw .arrangement

/-- The items of a block sequence that is not indented more than its key. -/
def readOpenItems : Nat → Compose (List Node)
  | 0 => throw .arrangement
  | fuel + 1 => do
      if ← accept .blockEntry then
        let item ← readUnless .block [.blockEntry, .key, .value, .blockEnd] fuel
        return item :: (← readOpenItems fuel)
      else return []

def readEntries : Nat → Compose (List (Node × Node))
  | 0 => throw .arrangement
  | fuel + 1 => do
      let ends : List Token := [.key, .value, .blockEnd]
      if ← accept .blockEnd then return []
      if !(← accept .key) then throw .arrangement
      let key ← readUnless .entryOrBlock ends fuel
      let value ←
        if ← accept .value then readUnless .entryOrBlock ends fuel else pure leftOut
      return (key, value) :: (← readEntries fuel)

/-- The comma before an item or entry in brackets, which the first one does not need. -/
def readComma (first : Bool) : Nat → Compose Unit
  | 0 => throw .arrangement
  | _ + 1 => do
      if !first then
        if !(← accept .flowEntry) then throw .arrangement

/-- The key of a lone entry in a sequence; if it is left out, so is the token behind its place. -/
def readLoneKey (ends : List Token) : Nat → Compose Node
  | 0 => throw .arrangement
  | fuel + 1 => do
      if ← sees ends then
        advance
        return leftOut
      else readNode .flow fuel

/-- The items of a sequence in brackets; an item can be a mapping with a single entry. -/
def readFlowItems (first : Bool) : Nat → Compose (List Node)
  | 0 => throw .arrangement
  | fuel + 1 => do
      if ← accept .flowSequenceEnd then return []
      readComma first (fuel + 1)
      if ← accept .flowSequenceEnd then return []
      let item ←
        if ← accept .key then do
          count 1
          let ends : List Token := [.flowEntry, .flowSequenceEnd]
          let key ← readLoneKey (.value :: ends) fuel
          let value ←
            if ← accept .value then readUnless .flow ends fuel else pure leftOut
          pure (Node.mapping Tag.mapping [(key, value)])
        else readNode .flow fuel
      return item :: (← readFlowItems false fuel)

/-- The entries of a mapping in brackets. -/
def readFlowEntries (first : Bool) : Nat → Compose (List (Node × Node))
  | 0 => throw .arrangement
  | fuel + 1 => do
      if ← accept .flowMappingEnd then return []
      readComma first (fuel + 1)
      if ← accept .flowMappingEnd then return []
      let ends : List Token := [.flowEntry, .flowMappingEnd]
      let entry ←
        if ← accept .key then do
          let key ← readUnless .flow (.value :: ends) fuel
          let value ←
            if ← accept .value then readUnless .flow ends fuel else pure leftOut
          pure (key, value)
        else do
          let key ← readNode .flow fuel
          pure (key, leftOut)
      return entry :: (← readFlowEntries false fuel)
end

/-! ## Documents -/

def usualHandles : List (String × String) :=
  [("!", "!"), ("!!", Tag.start)]

/-- Go behind the ends of documents. -/
def dropEnds : Nat → Compose Unit
  | 0 => return ()
  | fuel + 1 => do
      if ← accept .documentEnd then dropEnds fuel

/-- Take in directives: the version at most once, and every handle at most once. -/
def readDirectives (versioned : Bool) : Nat → Compose Unit
  | 0 => return ()
  | fuel + 1 => do
      match ← peek with
      | .version major minor =>
          advance
          if versioned ∨ major ≠ 1 ∨ (minor ≠ 1 ∧ minor ≠ 2) then throw .arrangement
          readDirectives true fuel
      | .tagHandle handle start =>
          advance
          if (← get).handles.any (·.1 == handle) then throw .arrangement
          modify fun composing =>
            { composing with handles := (handle, start) :: composing.handles }
          readDirectives versioned fuel
      | _ => return ()

/-- The head of a document with its mark; the answer tells whether there is one. -/
def readHead (fuel : Nat) : Compose Bool := do
  dropEnds fuel
  if ← sees [.textEnd] then return false
  modify fun composing => { composing with handles := [] }
  readDirectives false fuel
  if !(← accept .documentStart) then throw .arrangement
  modify fun composing => { composing with handles := composing.handles ++ usualHandles }
  return true

/-- Whether a token can only stand before or behind a document. -/
def isOutside : Token → Bool
  | .version _ _ | .tagHandle _ _ => true
  | token => token = .documentStart ∨ token = .documentEnd ∨ token = .textEnd

/-- The only document of a text, `none` for a text without one. -/
def readDocument (fuel : Nat) : Compose (Option Node) := do
  let first ← peek
  let headed : Bool := isOutside first && first != .documentEnd
  if headed then
    if !(← readHead fuel) then return none
  let next ← peek
  let node ← if headed && isOutside next then pure leftOut else readNode .block fuel
  let _ ← accept .documentEnd
  if ← readHead fuel then throw .composition
  return some node

/-- The most nodes that all aliases of a text may stand for. -/
def maxRepeated : Nat := 1000

/-- The only document of a text; its aliases end, and do not stand for too much. -/
def readBounded (fuel : Nat) : Compose (Option Node) := do
  let node ← readDocument fuel
  let composing ← get
  if composing.endless || maxRepeated < composing.repeated then throw .content
  return node

end Composing

/-- The node of a text, `none` for a text without a document. -/
def Node.ofText (text : String) : Except Fault (Option Node) :=
  let chars := Text.unifyBreaks text.toList
  if chars.all isAllowed then
    let (tokens, fault) := Token.ofText chars
    let fuel := 4 * tokens.length + 8
    (Composing.readBounded fuel).run'
      ⟨tokens, fault, Composing.usualHandles, [], 0, 0, false⟩
  else .error .character

end Typeset.Yaml
