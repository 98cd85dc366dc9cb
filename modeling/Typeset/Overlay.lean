import Typeset.FileId
import Typeset.Text.Utf8

/-!
# The overlay

Files in memory that shadow those of the project. They are kept under their
normal paths, in the order in which they came to exist; a file that is replaced
keeps its place. Files of packages and texts in memory are never shadowed.
-/

namespace Typeset

/-- The virtual files of a session, oldest first. -/
structure Overlay where
  files : List (VirtualPath × Bytes)

namespace Overlay

def empty : Overlay :=
  ⟨[]⟩

def find? (overlay : Overlay) (path : VirtualPath) : Option Bytes :=
  (overlay.files.find? (·.1 == path)).map (·.2)

/-- Put a content in the place of a file, or behind all others. -/
def putIn (path : VirtualPath) (content : Bytes) :
    List (VirtualPath × Bytes) → List (VirtualPath × Bytes)
  | [] => [(path, content)]
  | entry :: entries =>
      if entry.1 = path then (path, content) :: entries else entry :: putIn path content entries

/-- Create or replace the virtual file at a written path. -/
def set (overlay : Overlay) (path : String) (content : Bytes) : Overlay :=
  ⟨putIn (.parse path) content overlay.files⟩

/-- Add to the end of the virtual file at a written path, which may not exist yet. -/
def append (overlay : Overlay) (path : String) (content : Bytes) : Overlay :=
  let old := (overlay.find? (.parse path)).getD []
  ⟨putIn (.parse path) (old ++ content) overlay.files⟩

/-- Remove the virtual file at a written path. -/
def clear (overlay : Overlay) (path : String) : Overlay :=
  ⟨overlay.files.filter (·.1 ≠ .parse path)⟩

/-- The content of the virtual file at a written path. -/
def get? (overlay : Overlay) (path : String) : Option Bytes :=
  overlay.find? (.parse path)

/-- Whether a virtual file exists at a written path. -/
def contains (overlay : Overlay) (path : String) : Bool :=
  (overlay.get? path).isSome

def lookup (overlay : Overlay) (id : FileId) : Option Bytes :=
  match id.origin with
  | .project => overlay.find? id.path
  | _ => none

/-- The normal paths of the virtual files, oldest first. -/
def paths (overlay : Overlay) : List String :=
  overlay.files.map (·.1.render)

end Overlay

end Typeset
