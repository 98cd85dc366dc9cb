import Typeset.Disk

/-!
# Package archives

An archive lists directories and files by their paths; links and special files
are left out. A member may not leave the directory of extraction, not even on the
way to a place inside. This is checked of all members before anything is extracted,
and then an absolute path is unsafe, or of each member when it is its turn, and then
slashes in front do not count.

Bytes that are no archive are told apart by how they fail: they are unreadable,
they contradict themselves, or they end before the archive does.
-/

namespace Typeset

/-- A member of an archive; a member without content is a directory. -/
structure ArchiveMember where
  name : String
  content : Option Bytes

/-- Whether the name of a member has a zero character, so that it names nothing at all. -/
def ArchiveMember.hasZero (member : ArchiveMember) : Bool :=
  member.name.toList.contains '\x00'

/-- Why data cannot be opened as an archive. -/
inductive ArchiveData.Damage where
  | empty
  | notCompressed
  | endsEarly
  /-- The reader of archives refuses the data and says why. -/
  | unreadable (message : String)
  /-- The compressed stream contradicts itself. -/
  | corrupt (message : String)
  deriving DecidableEq

/-- The body of a download. -/
inductive ArchiveData where
  | archive (members : List ArchiveMember)
  /-- Bytes that are no archive. -/
  | chunks (chunks : List Bytes)
  /-- Bytes of any kind, and what the reader of archives finds in them. -/
  | stream (chunks : List Bytes) (found : Except ArchiveData.Damage (List ArchiveMember))

namespace ArchiveData

/-- What is said of data that cannot be opened. -/
def Damage.message : Damage → String
  | empty => "empty file"
  | notCompressed => "not a gzip file"
  | endsEarly => "Compressed file ended before the end-of-stream marker was reached"
  | unreadable message => message
  | corrupt message => message

/-- The number of bytes that stand between the mark of compressed data and its first block. -/
def headerLength : Nat := 8

/--
How bytes that are no archive fail to open: without the mark of compressed data, or with
a method of compression other than the one that is read, they are not compressed.
-/
def damageOf : Bytes → Damage
  | [] => .empty
  | 0x1F :: 0x8B :: header =>
      if header.length < headerLength ∨ header.head? = some 8 then .endsEarly else .notCompressed
  | _ => .notCompressed

def open? : ArchiveData → Except Damage (List ArchiveMember)
  | .archive list => .ok list
  | .chunks pieces => .error (damageOf pieces.flatten)
  | .stream _ found => found

/-- Whether components stay in a directory, which is so many levels below where they start. -/
def staysWithin (depth : Nat) : List String → Bool
  | [] => true
  | ".." :: rest => depth ≠ 0 && staysWithin (depth - 1) rest
  | _ :: rest => staysWithin (depth + 1) rest

/-- Whether a member stays in the directory of extraction; slashes in front do not count. -/
def staysInside (member : ArchiveMember) : Bool :=
  staysWithin 0 (HostPath.parse member.name).components

/-- Whether the path of a member is relative and stays in the directory of extraction. -/
def isSafe (member : ArchiveMember) : Bool :=
  (HostPath.parse member.name).anchor == .relative && staysInside member

/-- The first member whose path names nothing or leaves the directory of extraction. -/
def offender? (members : List ArchiveMember) : Option ArchiveMember :=
  members.find? fun member => member.hasZero || !isSafe member

/--
Make a directory that does not exist, and those above it that are missing, from
so many levels above at most. A directory that turns out to exist is a fault.
-/
def makeMissing (disk : Disk) (path : HostPath) : Nat → Except DiskFault Disk
  | 0 => disk.makeDirectory path
  | levels + 1 =>
      match disk.leadsAnywhere path.parent with
      | .ok true => disk.makeDirectory path
      | _ =>
          match makeMissing disk path.parent levels with
          | .ok disk => disk.makeDirectory path
          | .error .alreadyExists => disk.makeDirectory path
          | .error fault => .error fault

def extractMember (disk : Disk) (directory : HostPath) (member : ArchiveMember) :
    Except DiskFault Disk := do
  let path := directory.append (HostPath.parse member.name).components
  let disk ← match disk.leadsAnywhere path.parent with
    | .ok true => pure disk
    | _ => makeMissing disk path.parent path.components.length
  match member.content with
  | some content => disk.write path content
  | none =>
      match disk.makeDirectory path with
      | .error .alreadyExists => pure disk
      | result => result

/-- Why the members of an archive are not extracted. -/
inductive Refusal where
  /-- The name of a member has a zero character. -/
  | zeroInName
  /-- A member is unsafe, so that nothing was extracted. -/
  | unsafePath (name : String)
  /-- A member would leave the directory of extraction when it is its turn. -/
  | outside (name : String)
  | system (fault : DiskFault) (name : String)

/-- Extract members below a directory, one after another, up to the first that fails. -/
def extract (disk : Disk) (directory : HostPath) : List ArchiveMember → Except Refusal Disk
  | [] => .ok disk
  | member :: members =>
      match extractMember disk directory member with
      | .ok disk => extract disk directory members
      | .error fault => .error (.system fault member.name)

/-- Extract members when all of them are found to be safe. -/
def extractSafe (disk : Disk) (directory : HostPath) (members : List ArchiveMember) :
    Except Refusal Disk :=
  match offender? members with
  | some member => .error (if member.hasZero then .zeroInName else .unsafePath member.name)
  | none => extract disk directory members

/-- Extract members of which each is checked when it is its turn. -/
def extractInTurn (disk : Disk) (directory : HostPath) : List ArchiveMember → Except Refusal Disk
  | [] => .ok disk
  | member :: members =>
      if member.hasZero then .error .zeroInName
      else if !staysInside member then .error (.outside member.name)
      else
        match extractMember disk directory member with
        | .ok disk => extractInTurn disk directory members
        | .error fault => .error (.system fault member.name)

end ArchiveData

end Typeset
