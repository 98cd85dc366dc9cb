import Typeset.Proofs.Package.Repeated

/-!
# What calls for packages leave of a machine

Whoever only prepares packages and writes into the journal leaves the disk as it was, unless
the registry gives an answer. If nobody else puts anything on the disk meanwhile, every entry
stays even then, and what is new lies in the directory of a package or is a directory above it.
-/

namespace Typeset.PackageStorage

open Disk

variable {storage : PackageStorage} {spec : PackageSpec} {host first second last : Host}

/-- A machine is left as calls for packages leave it, whatever the journal says. -/
inductive OnlyPrepares (storage : PackageStorage) : Host → Host → Prop
  | reports (host : Host) (journal : Journal) :
      OnlyPrepares storage host { host with journal := journal }
  | call (host : Host) (spec : PackageSpec) : OnlyPrepares storage host (storage.leaves spec host)
  | trans {first second last : Host} (early : OnlyPrepares storage first second)
      (late : OnlyPrepares storage second last) : OnlyPrepares storage first last

theorem OnlyPrepares.refl (host : Host) : storage.OnlyPrepares host host :=
  .reports host host.journal

theorem OnlyPrepares.records (records : Journal) (host : Host) :
    storage.OnlyPrepares host (records.foldl Host.record host) := by
  induction records generalizing host with
  | nil => exact .refl host
  | cons record records ih => exact .trans (.reports host _) (ih (host.record record))

/-! ## Without an answer of the registry -/

/-- Answers of the registry are only taken, and while none is, the disk stays. -/
structure TakesAnswers (first last : Host) : Prop where
  fewer : last.responses.length ≤ first.responses.length
  kept : last.responses.length = first.responses.length →
    last.disk = first.disk ∧ last.responses = first.responses

theorem OnlyPrepares.takesAnswers (prepares : storage.OnlyPrepares first last) :
    TakesAnswers first last := by
  induction prepares with
  | reports => exact ⟨Nat.le_refl _, fun _ => ⟨rfl, rfl⟩⟩
  | call host spec =>
      rcases storage.prepare_cases spec host with ⟨_, disk, responses⟩ | ⟨response, taken⟩
      · exact ⟨Nat.le_of_eq (congrArg _ responses), fun _ => ⟨disk, responses⟩⟩
      · have shorter := congrArg List.length taken
        rw [List.length_cons] at shorter
        refine ⟨?_, fun same => ?_⟩ <;> simp only [leaves] at * <;> omega
  | trans _ _ early late =>
      refine ⟨Nat.le_trans late.fewer early.fewer, fun same => ?_⟩
      have fewer := early.fewer
      have fewest := late.fewer
      rcases late.kept (by omega) with ⟨lateDisk, lateResponses⟩
      rcases early.kept (by omega) with ⟨earlyDisk, earlyResponses⟩
      exact ⟨lateDisk.trans earlyDisk, lateResponses.trans earlyResponses⟩

/-- Where the registry gave no answer, the disk is what it was. -/
theorem OnlyPrepares.disk_eq (prepares : storage.OnlyPrepares first last)
    (quiet : last.responses = first.responses) : last.disk = first.disk :=
  (prepares.takesAnswers.kept (congrArg _ quiet)).1

/-! ## While nobody else works on the disk -/

/-- No answer of the registry comes with anything that others put on the disk. -/
def Alone (host : Host) : Prop :=
  ∀ response ∈ host.responses, response.planted = []

theorem Alone.eq_nil (alone : Alone host) {planted : List (HostPath × DiskEntry)}
    (meets : host.Meets planted) : planted = [] := by
  rcases meets with rfl | ⟨response, first, rfl⟩
  · rfl
  · exact alone response (List.mem_of_head? first)

/-- A disk only adds, and only what belongs to packages or lies above them. -/
def AddsPackages (storage : PackageStorage) (before after : Disk) : Prop :=
  before.Adds (fun path => ∃ spec, path = storage.cachePlace spec) after

theorem addsPackages_leaves (storage : PackageStorage) (spec : PackageSpec)
    (rooted : host.disk.Rooted) (alone : Alone host) :
    storage.AddsPackages host.disk (storage.leaves spec host).disk := by
  have isTarget : ∃ other, storage.cachePlace spec = storage.cachePlace other := ⟨spec, rfl⟩
  have above : storage.AddsPackages host.disk (storage.madeReady spec host.disk) :=
    adds_ensureDirectories isTarget (HostPath.IsAbove.refl _).parent host.disk
  rcases (storage.prepares_leaves spec host).whole_or_nothing rooted with
    ⟨planted, meets, nothing | ⟨_, _, _, _, members, place, _, _, placed⟩⟩
  · cases alone.eq_nil meets
    rcases nothing.directories with alike | alike
    · exact .of_alike fun place => (alike place).symm
    · exact above.trans (.of_alike fun place => (alike place).symm)
  · cases alone.eq_nil meets
    exact above.trans (placed.adds (rooted.ensureDirectories _) isTarget)

/-- Where nobody else worked on the disk, nothing was changed and packages were added at most. -/
theorem OnlyPrepares.addsPackages (prepares : storage.OnlyPrepares first last)
    (rooted : first.disk.Rooted) (alone : Alone first) :
    storage.AddsPackages first.disk last.disk ∧ last.disk.Rooted ∧ Alone last := by
  induction prepares with
  | reports => exact ⟨.refl _, rooted, alone⟩
  | call host spec =>
      have call := storage.prepares_leaves spec host
      exact ⟨addsPackages_leaves storage spec rooted alone, call.rooted rooted,
        fun response member => alone response (call.responses response member)⟩
  | trans _ _ early late =>
      rcases early rooted alone with ⟨added, stillRooted, stillAlone⟩
      rcases late stillRooted stillAlone with ⟨addedMore, finallyRooted, finallyAlone⟩
      exact ⟨added.trans addedMore, finallyRooted, finallyAlone⟩

end Typeset.PackageStorage
