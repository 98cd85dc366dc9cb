import Typeset.HostPath
import Typeset.PackageSpec
import Typeset.VirtualPath

/-!
# File identities

A document asks for files by identity: a virtual path below the project, below
a package, or of a text that exists in memory only. Paths that a document
writes are joined to the identity of the file that writes them, and the result
stays below the same root.
-/

namespace Typeset

/-- Where the virtual path of a file starts. -/
inductive FileOrigin where
  | project
  | package (spec : PackageSpec)
  /-- No disk file stands behind a text in memory. -/
  | memory
  deriving DecidableEq

/-- The identity of a file that a document can ask for. -/
structure FileId where
  origin : FileOrigin
  path : VirtualPath
  deriving DecidableEq

def FileOrigin.package? : FileOrigin → Option PackageSpec
  | .package spec => some spec
  | _ => none

namespace FileId

def project (path : String) : FileId :=
  ⟨.project, .parse path⟩

def inPackage (spec : PackageSpec) (path : String) : FileId :=
  ⟨.package spec, .parse path⟩

/-- A text in memory that goes by a written path. -/
def inMemory (path : String) : FileId :=
  ⟨.memory, .parse path⟩

def main : FileId :=
  inMemory "MARKUP.typ"

/-- The origin of files that are named from a file: a text in memory names project files. -/
def neighbours (id : FileId) : FileOrigin :=
  match id.origin with
  | .memory => .project
  | origin => origin

/--
The file that a path written in another file names. A leading slash starts at
the root, and any other path at the directory of the file that writes it.
-/
def join (id : FileId) (path : String) : FileId where
  origin := id.neighbours
  path :=
    if path.toList.head? = some '/' then .parse path else id.path.parent.extend path

/-- Where a file lies on disk below a root; a text in memory lies nowhere. -/
def resolve (id : FileId) (root : HostPath) : Option HostPath :=
  match id.origin with
  | .memory => none
  | _ => some (root.append id.path.components)

def render (id : FileId) : String :=
  match id.origin with
  | .package spec => spec.render ++ "/" ++ id.path.render
  | _ => id.path.render

end FileId

end Typeset
