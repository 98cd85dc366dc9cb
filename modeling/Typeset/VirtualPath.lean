import Typeset.Text.Split

/-!
# Virtual paths

A virtual path names a file below a root that it can never leave. Both slashes
separate components; empty components and `.` are dropped, and `..` removes the
component before it and stays at the root when there is none. What is left is
the list of plain components, which is the identity of the file: two spellings
name the same file exactly when their components agree.
-/

namespace Typeset

/-- A path below a root, as its plain components from the root down. -/
structure VirtualPath where
  components : List String
  deriving DecidableEq

namespace VirtualPath

def root : VirtualPath :=
  ⟨[]⟩

/-- Both slashes separate the components of a path. -/
def isSeparator (char : Char) : Bool :=
  char == '/' || char == '\\'

/-- Follow one written component from a path. -/
def step (components : List String) (component : String) : List String :=
  if component = "" ∨ component = "." then components
  else if component = ".." then components.dropLast
  else components ++ [component]

/-- Follow every component of a written path, starting at a path. -/
def extend (path : VirtualPath) (text : String) : VirtualPath :=
  ⟨(Text.pieces isSeparator text).foldl step path.components⟩

/-- The path that a text spells from the root. -/
def parse (text : String) : VirtualPath :=
  root.extend text

/-- The directory that holds a file; the root holds itself. -/
def parent (path : VirtualPath) : VirtualPath :=
  ⟨path.components.dropLast⟩

/-- A path in its one normal spelling: components joined by slashes. -/
def render (path : VirtualPath) : String :=
  "/".intercalate path.components

/-- The normal spelling of a written path. -/
def normalize (text : String) : String :=
  (parse text).render

end VirtualPath

end Typeset
