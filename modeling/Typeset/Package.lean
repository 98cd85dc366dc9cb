import Typeset.Archive
import Typeset.FileId
import Typeset.Journal
import Typeset.Number.Digits
import Typeset.Text.Digit
import Typeset.Text.Quoted

/-!
# Packages on disk

A package is looked for in the directory of installed packages, then in the
cache, and last, for one namespace only, in the registry. A download is extracted
into a fresh directory beside its place and moved there as a whole, so that the
place holds either a complete package or nothing; the fresh directory never
outlives the call. When another session was faster, its package stays.
-/

namespace Typeset

inductive RegistryResponse where
  /-- No connection came about. -/
  | offline (message : String)
  /--
  An answer; `meanwhile` is what others put on the disk while its body is read, and
  `cut` is what is said when the connection is lost before the end of the body.
  -/
  | reply (status : Nat) (length : Option String) (body : ArchiveData)
      (meanwhile : List (HostPath × DiskEntry)) (cut : Option String := none)

/-- What is reported of the progress of a download; sizes of proper archives are left open. -/
inductive DownloadEvent where
  | start
  | progress (sizes : Option (Option Nat × Nat))
  | finish (sizes : Option (Option Nat × Nat))
  deriving DecidableEq

/-- The machine that a session works on. -/
structure Host where
  disk : Disk
  /-- The answers that the registry has in store. -/
  responses : List RegistryResponse
  /-- The addresses that were requested, oldest first. -/
  requests : List String
  journal : Journal

/-- Add a record to the journal of the machine. -/
def Host.record (host : Host) (record : LogRecord) : Host :=
  { host with journal := host.journal ++ [record] }

/-- Where packages are kept and fetched from. -/
structure PackageStorage where
  installed : HostPath
  cache : HostPath
  registry : String
  /-- Whether the members of archives are checked in turn, and not all before extraction. -/
  inTurn : Bool

namespace PackageStorage

/-- The registry that is asked when no other is named. -/
def publicRegistry : String :=
  "https://packages.typst.org"

/--
A storage that checks archives before extraction. An empty address stands for the
public registry, and slashes at the end of an address do not matter.
-/
def make (installed cache : HostPath) (registry : String) : PackageStorage :=
  let address := if registry = "" then publicRegistry else registry
  ⟨installed, cache, String.ofList (Text.dropSlashes address.toList), false⟩

/-- The namespace of the packages that can be downloaded. -/
def downloadable : String :=
  "preview"

/-- The name by which the registry knows who asks. -/
def userAgent : String :=
  "folio/0.1.0"

def failure (message : String) : FileError :=
  .ofMessage .package message

/-- What is said of a package that is nowhere. -/
def notFound (spec : PackageSpec) : FileError :=
  failure s!"package not found ({spec.render})"

/-- What is said of a package that could not be downloaded. -/
def notDownloaded (spec : PackageSpec) (reason : String) : FileError :=
  failure s!"failed to download package {spec.render} ({reason})"

/-- What is said of a package that could not be extracted. -/
def notExtracted (spec : PackageSpec) (reason : String) : FileError :=
  failure s!"failed to extract package {spec.render} ({reason})"

/-- What is said of a package that would write outside its directory. -/
def unsafePath (spec : PackageSpec) (name : String) : FileError :=
  failure s!"package {spec.render} contains unsafe path {name}"

/-! ## Downloading -/

/-- The length that a header announces; one that is no run of digits announces none. -/
def announcedLength (header : Option String) : Except Fault (Option Nat) :=
  match header.map String.toList with
  | none | some [] => .ok none
  | some chars =>
      if !chars.all Text.isDigit then .ok none
      else
        let text := String.ofList chars
        match chars.mapM Text.decimalValue? with
        | none =>
            .error (.invalidValue
              s!"invalid literal for int() with base 10: {Text.quoted text}")
        | some values =>
            if Number.maxIntegerDigits < values.length then
              .error (.invalidValue <|
                s!"Exceeds the limit ({Number.maxIntegerDigits} digits) " ++
                s!"for integer string conversion: value has {values.length} digits; " ++
                "use sys.set_int_max_str_digits() to increase the limit")
            else .ok (some (values.foldl (fun total value => total * 10 + value) 0))

/-- The events of reading chunks when so many bytes were read before; empty chunks are none. -/
def chunkEvents (length : Option Nat) (total : Nat) : List Bytes → List DownloadEvent
  | [] => [.finish (some (length, total))]
  | [] :: chunks => chunkEvents length total chunks
  | chunk :: chunks =>
      .progress (some (length, total + chunk.length)) ::
        chunkEvents length (total + chunk.length) chunks

def bodyEvents (length : Option Nat) : ArchiveData → List DownloadEvent
  | .archive _ => [.progress none, .finish none]
  | .chunks chunks | .stream chunks _ => chunkEvents length 0 chunks

/-- What a registry that has no more answers gives. -/
def exhausted : RegistryResponse :=
  .offline "offline"

/-- Send a request and take the next answer of the registry. -/
def request (host : Host) (url : String) : RegistryResponse × Host :=
  let sent := { host with requests := host.requests ++ [url] }
  match host.responses with
  | [] => (exhausted, sent)
  | response :: responses => (response, { sent with responses := responses })

/-- The body that a registry sends for a package, and the events of reading it. -/
def download (spec : PackageSpec) (url : String) (host : Host) :
    Outcome ArchiveData × List DownloadEvent × Host :=
  match request host url with
  | (.offline message, host) => (.failed (notDownloaded spec message), [.start], host)
  | (.reply status length body meanwhile cut, host) =>
      if status = 404 then (.failed (notFound spec), [.start], host)
      else if 400 ≤ status then
        (.failed (notDownloaded spec s!"{status} error"), [.start], host)
      else
        match announcedLength length with
        | .error fault => (.broken fault, [.start], host)
        | .ok length =>
            let host := { host with disk := host.disk.plantAll meanwhile }
            let events := bodyEvents length body
            match cut with
            -- the end of the body is not reported when it is not reached
            | some message =>
                (.failed (notDownloaded spec message), .start :: events.dropLast, host)
            | none => (.value body, .start :: events, host)

/-! ## Installing -/

/-- Names for a fresh directory beside a package, of which one is free. -/
def stagingNames (disk : Disk) (spec : PackageSpec) : List String :=
  (List.range (disk.entries.length + 1)).map fun number => s!".{spec.name}-{number}"

/-- The number of bytes that the name of a fresh directory has besides the package's name. -/
def stagingExtraLength : Nat := 10

/-- Make a fresh directory in the directory at a path. -/
def makeStaging (disk : Disk) (parent : HostPath) (spec : PackageSpec) :
    Except DiskFault (HostPath × Disk) :=
  if Disk.maxNameLength < Text.Utf8.length spec.name.toList + stagingExtraLength then
    .error .nameTooLong
  else
    let paths := (stagingNames disk spec).map fun name => parent.append [name]
    match paths.findSome? fun path => (disk.makeDirectory path).toOption.map (path, ·) with
    | some made => .ok made
    | none => .error .alreadyExists

/-- How unpacking ends when the members of an archive are not extracted. -/
def refused (spec : PackageSpec) (directory : HostPath) : ArchiveData.Refusal → Outcome Disk
  | .zeroInName => .broken DiskFault.zeroInPath.toFault
  | .unsafePath name => .failed (unsafePath spec name)
  | .outside name =>
      let place := Text.quoted s!"{directory.render}/{name}"
      .failed <| notExtracted spec <|
        s!"{Text.quoted name} would be extracted to {place}, which is outside the destination"
  | .system fault name =>
      let place := Text.quoted s!"{directory.render}/{name}"
      .failed (notExtracted spec s!"[Errno {fault.code}] {fault.description}: {place}")

/-- Extract the members of an archive, with the checks of a storage. -/
def extract (storage : PackageStorage) : Disk → HostPath → List ArchiveMember →
    Except ArchiveData.Refusal Disk :=
  if storage.inTurn then ArchiveData.extractInTurn else ArchiveData.extractSafe

def unpack (storage : PackageStorage) (disk : Disk) (directory : HostPath) (spec : PackageSpec)
    (body : ArchiveData) : Outcome Disk :=
  match body.open? with
  | .error .endsEarly => .broken .endOfData
  | .error (.corrupt message) => .broken (.breakdown message)
  | .error damage => .failed (notExtracted spec damage.message)
  | .ok members =>
      match storage.extract disk directory members with
      | .ok disk => .value disk
      | .error refusal => refused spec directory refusal

/-- Move a finished package from a fresh directory to its place, unless there is one already. -/
def publish (disk : Disk) (staging target : HostPath) : Outcome Disk :=
  match disk.leadsAnywhere target with
  | .error fault => .broken fault.toFault
  | .ok true => .value disk
  | .ok false =>
      match disk.locate staging ⟨false, false⟩, disk.locate target ⟨false, true⟩ with
      | .ok source, .ok place =>
          if (disk.entry? place).isSome then .broken DiskFault.notDirectory.toFault
          else .value (disk.moveTree source place)
      | .error fault, _ | _, .error fault => .broken fault.toFault

def install (storage : PackageStorage) (disk : Disk) (spec : PackageSpec) (target : HostPath)
    (body : ArchiveData) : Disk × Outcome Unit :=
  match disk.ensureDirectories target.parent with
  | (disk, some fault) => (disk, .broken fault.toFault)
  | (disk, none) =>
      match makeStaging disk target.parent spec with
      | .error fault => (disk, .broken fault.toFault)
      | .ok (staging, staged) =>
          match (storage.unpack staged staging spec body).andThen (publish · staging target) with
          | .value finished => (finished.remove staging, .value ())
          | .failed error => (staged.remove staging, .failed error)
          | .broken fault => (staged.remove staging, .broken fault)

/-! ## Preparing -/

/-- The first of some directories that exists. -/
def findDirectory (disk : Disk) : List HostPath → Except DiskFault (Option HostPath)
  | [] => .ok none
  | path :: paths => do
      if ← disk.isDirectory path then return some path
      findDirectory disk paths

/-- The directory of a package, fetched when it is missing, and the events of fetching it. -/
def prepare (storage : PackageStorage) (spec : PackageSpec) (host : Host) :
    Outcome HostPath × List DownloadEvent × Host :=
  let target := storage.cache.append spec.directory
  match findDirectory host.disk [storage.installed.append spec.directory, target] with
  | .error fault => (.broken fault.toFault, [], host)
  | .ok (some path) =>
      (.value path, [],
        host.record (.world .debug s!"Package {spec.render} found at {path.render}"))
  | .ok none =>
      if spec.nameSpace ≠ downloadable then (.failed (notFound spec), [], host)
      else
        let url := spec.archiveUrl storage.registry
        let host := host.record (.world .info s!"Downloading package {spec.render} from {url}")
        match download spec url host with
        | (.failed error, events, host) => (.failed error, events, host)
        | (.broken fault, events, host) => (.broken fault, events, host)
        | (.value body, events, host) =>
            let (disk, outcome) := storage.install host.disk spec target body
            (outcome.map fun _ => target, events, { host with disk := disk })

end PackageStorage

end Typeset
