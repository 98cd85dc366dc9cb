import Typeset.Text.Split

/-!
# Paths of the disk

A path of the disk keeps `..`, which only the disk can follow, and drops empty
components and `.`. It is relative, or it starts at the root, which is written
with one slash or with exactly two. The empty relative path is written `.`.
-/

namespace Typeset

/-- Where a path of the disk starts. -/
inductive HostPath.Anchor where
  | relative
  | root
  | doubleRoot
  deriving DecidableEq

/-- A path of the disk: where it starts and the components from there. -/
structure HostPath where
  anchor : HostPath.Anchor
  components : List String
  deriving DecidableEq

namespace HostPath

/-- The text that an anchor contributes to a path. -/
def Anchor.render : Anchor → String
  | relative => ""
  | root => "/"
  | doubleRoot => "//"

/-- The anchor of a written path: two leading slashes count as a kind of their own, three as one. -/
def Anchor.ofText (chars : List Char) : Anchor :=
  match (chars.takeWhile (· == '/')).length with
  | 0 => relative
  | 2 => doubleRoot
  | _ => root

def parse (text : String) : HostPath where
  anchor := .ofText text.toList
  components := (Text.pieces (· == '/') text).filter fun piece => piece ≠ "" ∧ piece ≠ "."

/-- The relative path of some plain components. -/
def ofComponents (components : List String) : HostPath :=
  ⟨.relative, components⟩

def append (path : HostPath) (components : List String) : HostPath :=
  { path with components := path.components ++ components }

/-- A path continued by another, which replaces it unless it is relative. -/
def join (path other : HostPath) : HostPath :=
  match other.anchor with
  | .relative => path.append other.components
  | _ => other

def render (path : HostPath) : String :=
  match path.anchor, path.components with
  | .relative, [] => "."
  | anchor, components => anchor.render ++ "/".intercalate components

/-- The directory part of a path; a path without components is its own. -/
def parent (path : HostPath) : HostPath :=
  { path with components := path.components.dropLast }

/-- The last component, empty when there is none. -/
def name (path : HostPath) : String :=
  path.components.getLast?.getD ""

/--
Where the extension of a name starts: at its last dot, which neither begins nor
ends the name. The parts are the stem and the extension with its dot.
-/
def splitName (name : String) : String × String :=
  match Text.splitLast? '.' name.toList with
  | some (stem@(_ :: _), extension@(_ :: _)) =>
      (String.ofList stem, String.ofList ('.' :: extension))
  | _ => (name, "")

/-- The extension of the last component, with its dot. -/
def extension (path : HostPath) : String :=
  (splitName path.name).2

/-- A path with the extension of its last component replaced. -/
def withExtension (path : HostPath) (extension : String) : HostPath :=
  path.parent.append [(splitName path.name).1 ++ extension]

end HostPath

end Typeset
