import Std.Time.DateTime.Timestamp
import Typeset.CommandLine.Run

/-!
# The program

The outer layer: the files below the working directory are read into a disk, the
command runs on it, and what it changed is written back. Everything in between is
`CommandLine.run`.
-/

open Typeset

namespace Typeset.Program

def bytesOf (content : ByteArray) : Bytes :=
  content.toList

/-- The entries below a directory; links to directories are not entered. -/
partial def entriesBelow (directory : IO.FS.DirEntry) (place : Place) :
    IO (List (Place × DiskEntry)) := do
  let mut found := []
  for entry in ← directory.path.readDir do
    let here := place ++ [entry.fileName]
    let isLink := (← entry.path.symlinkMetadata).type == .symlink
    if ← entry.path.isDir then
      if !isLink then
        found := found ++ (here, .directory) :: (← entriesBelow entry here)
    else
      let content ← (IO.FS.readBinFile entry.path).toBaseIO
      match content with
      | .ok content => found := found ++ [(here, .file (bytesOf content))]
      | .error _ => pure ()
  return found

def workingDirectory : IO.FS.DirEntry :=
  ⟨".", "."⟩

/-- The path of a place below the working directory. -/
def pathOf (place : Place) : String :=
  "/".intercalate ("." :: place)

/-- Write the entries that a command added or changed. -/
def writeChanges (before after : Disk) : IO Unit := do
  for (place, entry) in after.entries do
    match entry, before.entry? place with
    | .directory, none => IO.FS.createDirAll (pathOf place)
    | .file content, some (.file old) =>
        if content != old then
          IO.FS.writeBinFile (pathOf place) (ByteArray.mk content.toArray)
    | .file content, _ => IO.FS.writeBinFile (pathOf place) (ByteArray.mk content.toArray)
    | _, _ => pure ()

/-- The number of 1 January 1970 among the days of the calendar. -/
def firstDay : Int :=
  Date.dayNumber ⟨1970, 1, 1⟩

def presentMoment : IO Moment := do
  let seconds := (← Std.Time.Timestamp.now).toSecondsSinceUnixEpoch.val
  return .ofMicroseconds (Moment.microsecondsPerDay * firstDay + 1000000 * seconds)

/-- A moment as it stands in the names of log directories. -/
def stampOf (moment : Moment) : String :=
  String.ofList ((Instant.render ⟨moment, none⟩ "_").toList.filter fun char =>
    char ≠ '-' && char ≠ ':')

/-- The settings that a command looks at. -/
def settingNames : List String :=
  ["FOLIO_COMPILER", "FOLIO_RENDERER", "FOLIO_SERIALIZER", "HOME"]

def settings : IO (List (String × String)) := do
  let mut found := []
  for name in settingNames do
    if let some value ← IO.getEnv name then
      found := found ++ [(name, value)]
  return found

def settingOf (settings : List (String × String)) (name : String) : Option String :=
  (settings.find? (·.1 == name)).map (·.2)

/-- What is said of a fault that escaped from a command. -/
def faultText : Fault → String
  | .breakdown message | .invalidValue message | .invalidKind message | .outOfRange message
  | .missingModule message | .noSuchPlace message => message
  | .unknownZone name => s!"No time zone found with key {name}"
  | .system code => s!"the system refused an operation (error {code})"
  | .endOfData => "data ended before its end was marked"
  | .undecodable => "the document is not valid UTF-8"
  | .unfit => "a collaborator lacks what its role asks for"
  | .undefinedOrder => "a number without a value has no place in an order"

/-- Where packages are kept below a home directory. -/
def packagesBelow (home : HostPath) : PackageStorage :=
  .make (home.append [".local", "share", "typst", "packages"])
    (home.append [".cache", "typst", "packages"]) PackageStorage.publicRegistry

/-- Run a command on the files below the working directory. -/
def runHere (arguments : List String) : IO UInt32 := do
  let disk : Disk := ⟨← entriesBelow workingDirectory []⟩
  let moment ← presentMoment
  let known := settingOf (← settings)
  let environment : CommandLine.Environment := {
    registry := LineMarkup.registry
    setting? := known
    packages := packagesBelow (FontSearch.homeDirectory ((known "HOME").getD ""))
    clock := .ofFixed .universal ⟨moment, some 0⟩
    fontReader := PlainFont.reader
    systemFonts := FontSearch.systemDirectories .other known
    timestamp := stampOf moment }
  let result := CommandLine.run environment ⟨disk, [], [], []⟩ arguments
  writeChanges disk result.host.disk
  IO.print result.output
  for record in result.shown do
    IO.eprintln s!"{record.level.name}: {record.text}"
  IO.eprint result.errors
  if let some fault := result.fault then IO.eprintln (faultText fault)
  return UInt32.ofNat result.exit

end Typeset.Program

/-- Run the command that the arguments ask for. -/
def main (arguments : List String) : IO UInt32 :=
  Program.runHere arguments
