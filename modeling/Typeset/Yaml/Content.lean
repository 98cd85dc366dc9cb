import Typeset.HostPath
import Typeset.Text.Base64
import Typeset.Value
import Typeset.Yaml.Node
import Typeset.Yaml.Numeral
import Typeset.Yaml.Timestamp

/-!
# What nodes say

A node stands for a value by its tag. A mapping may name a text as key only once,
and it takes over the entries of other mappings from under a merge key; its own
entries win over those.

Scalars are looked at when the collection around them is, and collections only
after everything around them. So of two faults the one that lies less deep is
reported, and of two that lie equally deep the first one.
-/

namespace Typeset.Yaml

/-! ## Faults by their depth -/

/-- A result, or a fault with the number of collections to be looked at before it. -/
abbrev Late (α : Type) := Except (Nat × Fault) α

namespace Late

/-- A fault that is found at once. -/
def fail {α : Type} (fault : Fault) : Late α :=
  .error (0, fault)

/-- A result that is known at once. -/
def ofExcept {α : Type} (result : Except Fault α) : Late α :=
  result.mapError ((0, ·))

/-- A result that is looked for one collection later. -/
def later {α : Type} (result : Late α) : Late α :=
  result.mapError fun (depth, fault) => (depth + 1, fault)

/-- Two results, or the fault that is found first. -/
def both {α β : Type} (left : Late α) (right : Late β) : Late (α × β) :=
  match left, right with
  | .ok value, .ok value' => .ok (value, value')
  | .error fault, .ok _ | .ok _, .error fault => .error fault
  | .error fault, .error fault' => .error (if fault'.1 < fault.1 then fault' else fault)

/-- All results, or the fault that is found first. -/
def all {α : Type} : List (Late α) → Late (List α)
  | [] => .ok []
  | result :: results => (both result (all results)).map fun (value, values) => value :: values

end Late

/-! ## Scalars -/

/-- The tag of the texts of paths, of this system or of another one. -/
def pathTag (kind : String) : String :=
  "tag:yaml.org,2002:python/object/apply:pathlib." ++ kind

/-- The value of a scalar that is known by its tag; `none` for a tag that makes no scalar. -/
def scalarValue? (tag text : String) : Option (Except Fault Value) :=
  if tag = Tag.text then some (.ok (.text text))
  else if tag = Tag.null then some (.ok .nothing)
  else if tag = Tag.bool then
    let word := Text.lower text
    if word ∈ Tag.trueWords then some (.ok (.bool true))
    else if word ∈ Tag.falseWords then some (.ok (.bool false))
    else some (.error .truth)
  else if tag = Tag.int then some (.int <$> Numeral.integer text)
  else if tag = Tag.float then some (.float <$> Numeral.double text)
  else if tag = Tag.binary then
    match Text.Base64.decode? text.toList with
    | some content =>
        some (if text.toList.all (·.toNat < 0x80) then .ok (.bytes content) else .error .content)
    | none => some (.error .content)
  else if tag = Tag.timestamp then
    some ((Timestamp.check text).map fun () => .foreign "timestamp")
  else none

/-! ## Paths -/

/-- A path as a value: a record of its text. -/
def pathValue (path : HostPath) : Value :=
  .record "path" [("text", .text path.render)]

def pathText? : Value → Option String
  | .record "path" [(_, .text text)] => some text
  | _ => none

def pathPart? (value : Value) : Option HostPath :=
  match value with
  | .text text => some (.parse text)
  | value => (pathText? value).map .parse

/-- The path of some parts, each continued by the next. -/
def pathOf (parts : List Value) : Except Fault Value :=
  match parts.mapM pathPart? with
  | some paths => .ok (pathValue (paths.foldl .join (.parse "")))
  | none => .error .pathPart

/-! ## Nodes -/

namespace Node

/-- Whether a value can be the key of a mapping. -/
def isKey (value : Value) : Bool :=
  value.unkeyed?.isNone && match value with | .foreign "set" => false | _ => true

def textKeys (entries : List (Node × Node)) : List String :=
  entries.filterMap fun entry =>
    match entry.1 with
    | .scalar tag text => if tag = Tag.text then some text else none
    | _ => none

/-- Whether a text is named twice as key. -/
def repeatsKey (entries : List (Node × Node)) : Bool :=
  !decide (textKeys entries).Nodup

def tag : Node → String
  | .scalar tag _ | .sequence tag _ | .mapping tag _ => tag

/-- What an entry of a mapping says. -/
structure Entry where
  key : Late Value
  value : Late Value

/-- What a node says, by all the ways in which it can be asked. -/
structure Meaning where
  /-- The value that it stands for. -/
  value : Late Value
  /-- The text that it has as a scalar. -/
  text : Except Fault String
  /-- The entries that it gives to a mapping with a merge key. -/
  taken : Except Fault (List Entry)
  /-- The same, in a list of such nodes. -/
  listed : Except Fault (List Entry)
  /-- The only entry of a mapping. -/
  pair : Except Fault Entry

/-- The key that a node is: collections can change, so that they are no keys. -/
def keyOf (key : Late Value) : Late Value :=
  match key with
  | .ok value => if isKey value then .ok value else .error (0, .content)
  | .error (0, fault) => .error (0, fault)
  | .error _ => .error (0, .content)

/-- An entry whose key may be a sign for a value without a key, which is a text then. -/
def entryOf (keyNode : Node) (key value : Meaning) : Entry where
  key := keyOf (if keyNode.tag = Tag.value then (Late.ofExcept key.text).map .text else key.value)
  value := value.value

/-- The entries of a mapping with those that it takes over before them. -/
def flatten : List (Node × Meaning × Meaning) → Except Fault (List Entry × List Entry)
  | [] => .ok ([], [])
  | (keyNode, key, value) :: entries =>
      if keyNode.tag = Tag.merge then do
        let taken ← value.taken
        let (merged, own) ← flatten entries
        return (taken ++ merged, own)
      else do
        let (merged, own) ← flatten entries
        return (merged, entryOf keyNode key value :: own)

/-- The entries of a mapping, each as key and value. -/
def valuesOf (entries : List Entry) : Late (List (Value × Value)) :=
  .all (entries.map fun entry => .both entry.key entry.value)

/-- The value of an ordered list of entries. -/
def pairsOf (items : List Meaning) : Late Value :=
  let pairs := items.map fun item => do
    let entry ← Late.ofExcept item.pair
    let (key, value) ← Late.both entry.key entry.value
    return Value.array true [key, value]
  (Late.all pairs).map (.array false)

def scalarOf? (tag : String) (text : Except Fault String) : Option (Late Value) :=
  match text with
  | .ok text => (scalarValue? tag text).map .ofExcept
  | .error fault => (scalarValue? tag "").map fun _ => .fail fault

def sequenceOf (tag : String) (items : List Meaning) : Late Value :=
  let values := items.map (·.value)
  if tag = Tag.sequence then Late.later ((Late.all values).map (.array false))
  else if tag = Tag.omap ∨ tag = Tag.pairs then Late.later (pairsOf items)
  else if tag = Tag.mapping ∨ tag = Tag.set then Late.later (.fail .content)
  else if tag = pathTag "WindowsPath" then .fail .foreignPath
  else if tag = pathTag "Path" ∨ tag = pathTag "PosixPath" then
    match Late.all values with
    | .ok values => .ofExcept (pathOf values)
    | .error (0, fault) => .fail fault
    | .error _ => .fail .pathPart
  else .fail .content

def mappingOf (tag : String) (entries : Late (List (Value × Value))) : Late Value :=
  if tag = Tag.mapping then Late.later (entries.map .ofEntries)
  else if tag = Tag.set then Late.later (entries.map fun _ => .foreign "set")
  else if tag = Tag.sequence ∨ tag = Tag.omap ∨ tag = Tag.pairs then Late.later (.fail .content)
  else .fail .content

/-- The value of a scalar with the tag of a collection, or with a tag that is not known. -/
def misplacedScalar (tag : String) : Late Value :=
  if tag ∈ [Tag.sequence, Tag.mapping, Tag.set, Tag.omap, Tag.pairs] then
    Late.later (.fail .content)
  else .fail .content

/-- The text of a mapping that has a value without a key. -/
def keylessText (entries : List (Node × Meaning × Meaning)) : Except Fault String :=
  match entries.find? (·.1.tag = Tag.value) with
  | some (_, _, value) => value.text
  | none => .error .content

def onlyEntry : List (Node × Meaning × Meaning) → Except Fault Entry
  | [(_, key, value)] => .ok ⟨key.value, value.value⟩
  | _ => .error .content

mutual
def meaning : Node → Meaning
  | .scalar tag text =>
      ⟨(scalarOf? tag (.ok text)).getD (misplacedScalar tag), .ok text, .error .content,
        .error .content, .error .content⟩
  | .sequence tag items =>
      let items := meanings items
      ⟨(scalarOf? tag (.error .content)).getD (sequenceOf tag items), .error .content,
        (items.mapM Meaning.listed).map fun all => all.reverse.flatten, .error .content,
        .error .content⟩
  | .mapping tag entries =>
      let all := entryMeanings entries
      let flat := flatten all
      let values := do
        if repeatsKey entries then Late.fail .content
        let (merged, own) ← Late.ofExcept flat
        valuesOf (merged ++ own)
      let text := keylessText all
      let given := flat.map fun (merged, own) => merged ++ own
      ⟨(scalarOf? tag text).getD (mappingOf tag values), text, given, given, onlyEntry all⟩

def meanings : List Node → List Meaning
  | [] => []
  | node :: nodes => meaning node :: meanings nodes

/-- What the keys and values of some entries say. -/
def entryMeanings : List (Node × Node) → List (Node × Meaning × Meaning)
  | [] => []
  | (key, value) :: entries => (key, meaning key, meaning value) :: entryMeanings entries
end

def value (node : Node) : Except Fault Value :=
  node.meaning.value.mapError (·.2)

end Node

/-- The value that a text stands for; a text without a document stands for nothing. -/
def valueOfText (text : String) : Except Fault Value := do
  match ← Node.ofText text with
  | none => return .nothing
  | some node => node.value

end Typeset.Yaml
