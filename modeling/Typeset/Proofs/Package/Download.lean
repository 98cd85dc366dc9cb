import Typeset.Package

/-!
# Downloads

A download makes one request and takes the next answer that the registry has in store. It
gives the whole body of a good answer, it fails, or a length that cannot be read breaks it
off. What others put on the disk comes with a body that is read.
-/

namespace Typeset

/-- What others put on the disk while an answer of the registry is read. -/
def RegistryResponse.planted : RegistryResponse → List (HostPath × DiskEntry)
  | .offline _ => []
  | .reply _ _ _ meanwhile _ => meanwhile

/-- What others may put on the disk during a call: nothing, or what comes with the next answer. -/
def Host.Meets (host : Host) (planted : List (HostPath × DiskEntry)) : Prop :=
  planted = [] ∨ ∃ response, host.responses.head? = some response ∧ planted = response.planted

theorem Host.meets_of_answer {host : Host} {status : Nat} {length : Option String}
    {body : ArchiveData} {planted : List (HostPath × DiskEntry)} {cut : Option String}
    (answer : host.responses.head? = some (.reply status length body planted cut)) :
    host.Meets planted :=
  .inr ⟨_, answer, rfl⟩

namespace PackageStorage

/-- How a download ends, and the disk that it leaves. -/
inductive DownloadEnds (host : Host) (left : Disk) : Outcome ArchiveData → Prop
  | failed {error : FileError} {planted : List (HostPath × DiskEntry)}
      (ofPackage : error.kind = .package) (meets : host.Meets planted)
      (disk : left = host.disk.plantAll planted) : DownloadEnds host left (.failed error)
  | unreadable {fault : Fault} {status : Nat} {text : String} {body : ArchiveData}
      {meanwhile : List (HostPath × DiskEntry)} {cut : Option String}
      (answer : host.responses.head? = some (.reply status (some text) body meanwhile cut))
      (good : status < 400) (refused : announcedLength (some text) = .error fault)
      (disk : left = host.disk) : DownloadEnds host left (.broken fault)
  | whole {status : Nat} {length : Option String} {size : Option Nat} {body : ArchiveData}
      {planted : List (HostPath × DiskEntry)}
      (answer : host.responses.head? = some (.reply status length body planted none))
      (good : status < 400) (announced : announcedLength length = .ok size)
      (disk : left = host.disk.plantAll planted) : DownloadEnds host left (.value body)

/-- What a download gives and leaves. -/
structure Downloads (host : Host) (url : String) (outcome : Outcome ArchiveData) (left : Host) :
    Prop where
  requests : left.requests = host.requests ++ [url]
  responses : left.responses = host.responses.tail
  ends : DownloadEnds host left.disk outcome

theorem download_of_no_responses {host : Host} (empty : host.responses = []) (spec : PackageSpec)
    (url : String) :
    download spec url host = (.failed (notDownloaded spec "offline"), [.start],
      { host with requests := host.requests ++ [url] }) := by
  simp only [download, request, empty]
  rfl

theorem downloads (spec : PackageSpec) (url : String) (host : Host) :
    Downloads host url (download spec url host).1 (download spec url host).2.2 := by
  cases stored : host.responses with
  | nil =>
      rw [download_of_no_responses stored]
      exact ⟨rfl, by simp [stored], .failed rfl (.inl rfl) rfl⟩
  | cons response later =>
      have first : host.responses.head? = some response := by simp [stored]
      have rest : later = host.responses.tail := by simp [stored]
      simp only [download, request, stored]
      cases response with
      | offline message => exact ⟨rfl, rest, .failed rfl (.inl rfl) rfl⟩
      | reply status length body meanwhile cut =>
          dsimp only
          split
          · exact ⟨rfl, rest, .failed rfl (.inl rfl) rfl⟩
          · split
            · exact ⟨rfl, rest, .failed rfl (.inl rfl) rfl⟩
            · next bad =>
                have good := Nat.not_le.mp bad
                cases announced : announcedLength length with
                | error fault =>
                    cases length with
                    | none => cases announced
                    | some text => exact ⟨rfl, rest, .unreadable first good announced rfl⟩
                | ok size =>
                    cases cut with
                    | some message =>
                        exact ⟨rfl, rest, .failed rfl (Host.meets_of_answer first) rfl⟩
                    | none => exact ⟨rfl, rest, .whole first good announced rfl⟩

end PackageStorage

end Typeset
