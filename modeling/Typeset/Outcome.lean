import Typeset.HostPath

/-!
# Outcomes of reading

A reading gives a value, or fails with a file error, which is an answer like
any other and is remembered like one, or is broken off by a fault, which is
not: a fault belongs to the caller or to the machine and not to the file.
-/

namespace Typeset

inductive FileErrorKind where
  | general
  | notFound
  | accessDenied
  | isDirectory
  | invalidUtf8
  | package
  | otherInputOutput
  deriving DecidableEq

/-- The name by which the content hash of an error tells its kind from the others. -/
def FileErrorKind.name : FileErrorKind → String
  | general => "FileError"
  | notFound => "FileNotFound"
  | accessDenied => "AccessDenied"
  | isDirectory => "IsDirectory"
  | invalidUtf8 => "InvalidUtf8"
  | package => "PackageError"
  | otherInputOutput => "OtherIoError"

def FileErrorKind.ofName? (name : String) : Option FileErrorKind :=
  [general, notFound, accessDenied, isDirectory, invalidUtf8, package, otherInputOutput].find?
    (·.name == name)

/-- Why a file has no content for the document that asks for it. -/
structure FileError where
  kind : FileErrorKind
  message : String
  path : Option HostPath
  deriving DecidableEq

namespace FileError

/-- An error that names no place on disk. -/
def ofMessage (kind : FileErrorKind) (message : String) : FileError :=
  ⟨kind, message, none⟩

/-- What is shown of an error: its message and the place on disk, if it names one. -/
def text (error : FileError) : String :=
  match error.path with
  | none => error.message
  | some path => s!"{error.message} (path: {path.render})"

/-- Two errors are the same for every reader when kind and text agree. -/
def same (left right : FileError) : Bool :=
  left.kind == right.kind && left.text == right.text

/--
The file error that stands for an error code of the system. The description
is the system's word for the code, and `shown` is what the error prints as.
-/
def ofSystemCode (code : Option Int) (description shown : String) (path : HostPath) : FileError :=
  match code with
  | some 2 => ⟨.notFound, "file not found", path⟩
  | some 13 | some 1 => ⟨.accessDenied, "failed to load file (access denied)", path⟩
  | some 21 => ⟨.isDirectory, "failed to load file (is a directory)", path⟩
  | _ =>
      let reason := if description = "" then shown else description
      ⟨.otherInputOutput, s!"failed to load file ({reason})", path⟩

end FileError

/-- What breaks off a computation. -/
inductive Fault where
  /-- A collaborator broke down. -/
  | breakdown (message : String)
  /-- An argument has a value that no answer exists for. -/
  | invalidValue (message : String)
  /-- An argument is of a kind that is not accepted. -/
  | invalidKind (message : String)
  /-- A result is outside the range that can be represented. -/
  | outOfRange (message : String)
  /-- A sequence has nothing at the place that is asked for. -/
  | noSuchPlace (message : String)
  /-- No time zone goes by this name. -/
  | unknownZone (name : String)
  /-- The system refused an operation other than the reading of a file. -/
  | system (code : Int)
  /-- Data that comes in parts ended before its end was marked. -/
  | endOfData
  /-- The bytes of a document are no text. -/
  | undecodable
  /-- No module goes by the name that an object is loaded by. -/
  | missingModule (message : String)
  /-- A collaborator lacks what its role asks for. -/
  | unfit
  /-- An order was asked for where a number is undefined. -/
  | undefinedOrder
  deriving DecidableEq

inductive Outcome (α : Type) where
  | value (result : α)
  | failed (error : FileError)
  | broken (fault : Fault)

namespace Outcome

/-- The outcome that a remembered answer stands for. -/
def ofExcept {α : Type} : Except FileError α → Outcome α
  | .ok result => .value result
  | .error error => .failed error

/-- Continue with the value of an outcome. -/
def andThen {α β : Type} (outcome : Outcome α) (next : α → Outcome β) : Outcome β :=
  match outcome with
  | .value result => next result
  | .failed error => .failed error
  | .broken fault => .broken fault

/-- Apply a function to the value of an outcome. -/
def map {α β : Type} (function : α → β) (outcome : Outcome α) : Outcome β :=
  outcome.andThen fun result => .value (function result)

end Outcome

end Typeset
