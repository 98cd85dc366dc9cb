import Typeset.Outcome
import Typeset.Text.Utf8

/-!
# The disk

The part of the disk below the working directory: directories, files and
symbolic links, each at the plain components that lead to it. Links are
followed like a system follows them: relative to the directory that holds them,
forty of them at most, and nothing is found outside the working directory.

Parents of an entry are directories; every operation that adds an entry checks
or makes them. No operation is refused for want of permission or of room, and the
working directory does not count in the length of a path.
-/

namespace Typeset

/-- Why the system refuses an operation on the disk. -/
inductive DiskFault where
  | notFound
  | alreadyExists
  | notDirectory
  | isDirectory
  | nameTooLong
  | tooManyLinks
  /-- A path with a zero character names nothing at all. -/
  | zeroInPath
  deriving DecidableEq

namespace DiskFault

/-- The number by which the system reports a fault. -/
def code : DiskFault → Int
  | notFound => 2
  | alreadyExists => 17
  | notDirectory => 20
  | isDirectory => 21
  | nameTooLong => 36
  | tooManyLinks => 40
  | zeroInPath => 22

/-- The system's words for a fault. -/
def description : DiskFault → String
  | notFound => "No such file or directory"
  | alreadyExists => "File exists"
  | notDirectory => "Not a directory"
  | isDirectory => "Is a directory"
  | nameTooLong => "File name too long"
  | tooManyLinks => "Too many levels of symbolic links"
  | zeroInPath => "embedded null byte"

/-- The fault of a computation that the system's refusal breaks off. -/
def toFault : DiskFault → Fault
  | zeroInPath => .invalidValue zeroInPath.description
  | fault => .system fault.code

/-- The file error of a reading that the system refused, unless it is none. -/
def toOutcome {α : Type} (fault : DiskFault) (path : HostPath) : Outcome α :=
  match fault with
  | zeroInPath => .broken fault.toFault
  | fault => .failed (.ofSystemCode (some fault.code) fault.description fault.description path)

/-- Whether a fault only says that there is nothing at a path. -/
def meansAbsent : DiskFault → Bool
  | notFound | notDirectory | tooManyLinks | zeroInPath => true
  | _ => false

end DiskFault

inductive DiskEntry where
  | directory
  | file (content : Bytes)
  | link (target : HostPath)

def DiskEntry.isDirectory : DiskEntry → Bool
  | .directory => true
  | _ => false

def DiskEntry.isFile : DiskEntry → Bool
  | .file _ => true
  | _ => false

/-- The plain components that lead from the working directory to a place. -/
abbrev Place := List String

/-- The entries below the working directory. -/
structure Disk where
  entries : List (Place × DiskEntry)

namespace Disk

def empty : Disk :=
  ⟨[]⟩

/-- The entry at a place, without following a link there. -/
def entry? (disk : Disk) (place : Place) : Option DiskEntry :=
  if place = [] then some .directory else (disk.entries.find? (·.1 == place)).map (·.2)

/-- The number of bytes that a name may have. -/
def maxNameLength : Nat := 255

/-- The number of bytes that a path may have. -/
def maxPathLength : Nat := 4095

/-- The number of links that are followed on the way to one place. -/
def maxLinks : Nat := 40

structure PathEnd where
  /-- A link at the end is followed. -/
  throughLink : Bool
  /-- The end may be missing from a directory that exists. -/
  mayBeMissing : Bool

/--
Follow the components of a path from a directory, through as many links at most
as are left.
-/
def follow (disk : Disk) (ending : PathEnd) (links : Nat) (place : Place) :
    List String → Except DiskFault Place
  | [] => .ok place
  | name :: rest =>
      if name = ".." then
        if place = [] then .error .notFound else follow disk ending links place.dropLast rest
      else if maxNameLength < Text.Utf8.length name.toList then .error .nameTooLong
      else
        let next := place ++ [name]
        match disk.entry? next with
        | none => if rest = [] ∧ ending.mayBeMissing then .ok next else .error .notFound
        | some .directory => follow disk ending links next rest
        | some (.file _) => if rest = [] then .ok next else .error .notDirectory
        | some (.link target) =>
            if rest = [] ∧ !ending.throughLink then .ok next
            else
              match links, target.anchor with
              | 0, _ => .error .tooManyLinks
              | links + 1, .relative => follow disk ending links place (target.components ++ rest)
              | _ + 1, _ => .error .notFound
  termination_by path => (links, path.length)

def locate (disk : Disk) (path : HostPath) (ending : PathEnd) : Except DiskFault Place :=
  if path.render.toList.contains '\x00' then .error .zeroInPath
  else if maxPathLength < Text.Utf8.length path.render.toList then .error .nameTooLong
  else
    match path.anchor with
    | .relative => disk.follow ending maxLinks [] path.components
    | _ => .error .notFound

/-- The entry that a path leads to, all links followed. -/
def stat (disk : Disk) (path : HostPath) : Except DiskFault (Place × DiskEntry) := do
  let place ← disk.locate path ⟨true, false⟩
  match disk.entry? place with
  | some entry => return (place, entry)
  | none => throw .notFound

/-- Whether what a path leads to passes a test; a path that leads to nothing passes none. -/
def holdsAt (disk : Disk) (path : HostPath) (test : DiskEntry → Bool) : Except DiskFault Bool :=
  match disk.stat path with
  | .ok (_, entry) => .ok (test entry)
  | .error fault => if fault.meansAbsent then .ok false else .error fault

def isDirectory (disk : Disk) (path : HostPath) : Except DiskFault Bool :=
  disk.holdsAt path DiskEntry.isDirectory

def isFile (disk : Disk) (path : HostPath) : Except DiskFault Bool :=
  disk.holdsAt path DiskEntry.isFile

def leadsAnywhere (disk : Disk) (path : HostPath) : Except DiskFault Bool :=
  disk.holdsAt path fun _ => true

/-- The content of the file that a path leads to. -/
def read (disk : Disk) (path : HostPath) : Except DiskFault Bytes := do
  match (← disk.stat path).2 with
  | .file content => return content
  | .directory => throw .isDirectory
  | .link _ => throw .notFound

def put (disk : Disk) (place : Place) (entry : DiskEntry) : Disk :=
  ⟨disk.entries.filter (·.1 ≠ place) ++ [(place, entry)]⟩

/-- Whether a place is another one or lies below it. -/
def isWithin (place directory : Place) : Bool :=
  directory.isPrefixOf place

def removeTree (disk : Disk) (place : Place) : Disk :=
  ⟨disk.entries.filter fun entry => !isWithin entry.1 place⟩

/-- Move a place and all below it to another place. -/
def moveTree (disk : Disk) (source target : Place) : Disk :=
  ⟨disk.entries.map fun (place, entry) =>
    if isWithin place source then (target ++ place.drop source.length, entry) else (place, entry)⟩

/-- The entries below a place, by the components that lead there from it. -/
def below (disk : Disk) (place : Place) : List (Place × DiskEntry) :=
  disk.entries.filterMap fun entry =>
    if isWithin entry.1 place then some (entry.1.drop place.length, entry.2) else none

def makeDirectory (disk : Disk) (path : HostPath) : Except DiskFault Disk := do
  let place ← disk.locate path ⟨false, true⟩
  match disk.entry? place with
  | none => return disk.put place .directory
  | some _ => throw .alreadyExists

/-- Make a directory unless there is one; the fault that stands in the way is the answer. -/
def ensureDirectory (disk : Disk) (path : HostPath) : Disk × Option DiskFault :=
  match disk.makeDirectory path, disk.isDirectory path with
  | .ok disk, _ => (disk, none)
  | .error _, .ok true => (disk, none)
  | .error fault, _ => (disk, some fault)

/-- Make a directory and the directories above it, from so many levels above at most. -/
def ensureDirectoriesFrom (disk : Disk) (path : HostPath) : Nat → Disk × Option DiskFault
  | 0 => disk.ensureDirectory path
  | levels + 1 =>
      match disk.makeDirectory path with
      | .error .notFound =>
          match disk.ensureDirectoriesFrom path.parent levels with
          | (disk, none) => disk.ensureDirectory path
          | failed => failed
      | _ => disk.ensureDirectory path

/-- Make a directory and the directories above it where they are missing. -/
def ensureDirectories (disk : Disk) (path : HostPath) : Disk × Option DiskFault :=
  disk.ensureDirectoriesFrom path path.components.length

/-- Write a file, creating or replacing it in a directory that exists. -/
def write (disk : Disk) (path : HostPath) (content : Bytes) : Except DiskFault Disk := do
  let place ← disk.locate path ⟨true, true⟩
  match disk.entry? place with
  | some .directory => throw .isDirectory
  | _ => return disk.put place (.file content)

/-- Put an entry at a path, with the directories above it. -/
def plant (disk : Disk) (path : HostPath) (entry : DiskEntry) : Disk :=
  let disk := (disk.ensureDirectories path.parent).1
  match entry with
  | .file content => (disk.write path content).toOption.getD disk
  | .directory => (disk.ensureDirectories path).1
  | .link _ =>
      match disk.locate path ⟨false, true⟩ with
      | .ok place =>
          match disk.entry? place with
          | some .directory => disk
          | _ => disk.put place entry
      | .error _ => disk

/-- Put entries at paths, one after another. -/
def plantAll (disk : Disk) (entries : List (HostPath × DiskEntry)) : Disk :=
  entries.foldl (fun disk (path, entry) => disk.plant path entry) disk

/-- Remove what a path names; a link is removed and not what it leads to. -/
def remove (disk : Disk) (path : HostPath) : Disk :=
  match disk.locate path ⟨false, false⟩ with
  | .ok place => disk.removeTree place
  | .error _ => disk

end Disk

end Typeset
