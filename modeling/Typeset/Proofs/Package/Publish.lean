import Typeset.Package
import Typeset.Proofs.Archive

/-!
# Publishing a package

A package that was unpacked in a fresh directory is moved to its place beside it.
After the fresh directory is gone, the place holds a directory exactly when it held
one before anything was unpacked, or held nothing at all, and is not the place of the
fresh directory.
-/

namespace Typeset

namespace Disk

/-- A path leads to a directory, or names a place for one where nothing is. -/
def HasRoom (disk : Disk) (path : HostPath) : Prop :=
  disk.isDirectory path = .ok true ∨
    ∃ place, disk.locate path ⟨false, true⟩ = .ok place ∧ disk.entry? place = none

variable {ready disk : Disk} {path other : HostPath} {parent : Place} {name version : String}

theorem prefix_sibling_iff : parent ++ [name] <+: parent ++ [version] ↔ name = version := by
  simp [List.prefix_append_right_inj]

namespace Filling

section

variable (fresh : ready.FreshPlace path parent name)
  (filling : Filling ready disk (parent ++ [name]))

include fresh filling

theorem remove_eq : disk.remove (path.append [name]) = disk.removeTree (parent ++ [name]) := by
  have located := (leadsTo_above fresh filling).locate_directory fresh.walkable fresh.nameable
    filling.there ⟨false, false⟩
  simp only [remove, located]

/-- Removing the directory that is filled restores the disk. -/
theorem alike_remove (rooted : ready.Rooted) : (disk.remove (path.append [name])).Alike ready := by
  rw [filling.remove_eq fresh]
  intro place
  by_cases within : parent ++ [name] <+: place
  · rw [entry?_removeTree_within _ (ne_nil_of_absent fresh.absent) within,
      rooted.absent_below fresh.absent within]
  · rw [entry?_removeTree_of_outside _ within, filling.alike _ (beside_singleton.mpr within)]

/-- A directory that a path leads to is found while another one is filled. -/
theorem leadsAnywhere (found : ready.isDirectory other = .ok true) :
    disk.leadsAnywhere other = .ok true := by
  rcases isDirectory_eq_true_iff.mp found with ⟨place, leads⟩
  exact (leads.beside filling.alike (by simpa using fresh.absent)).1.leadsAnywhere

end

section

variable (fresh : ready.FreshPlace path parent name)
  (free : ready.FreshPlace path parent version) (different : name ≠ version)
  (filling : Filling ready disk (parent ++ [name]))

include fresh free different filling

omit fresh in
theorem sibling_absent : disk.entry? (parent ++ [version]) = none := by
  rw [← filling.alike _ (beside_singleton.mpr (different ∘ prefix_sibling_iff.mp)), free.absent]

omit fresh in
theorem sibling_free (rooted : ready.Rooted) (place : Place)
    (within : parent ++ [version] <+: place) :
    disk.entry? place = none := by
  have outside : ¬parent ++ [name] <+: place := by
    intro inside
    rcases List.prefix_or_prefix_of_prefix inside within with up | down
    · exact different (prefix_sibling_iff.mp up)
    · exact different (prefix_sibling_iff.mp down).symm
  rw [← filling.alike _ (beside_singleton.mpr outside), rooted.absent_below free.absent within]

omit different in
theorem leadsTo_moved :
    (disk.moveTree (parent ++ [name]) (parent ++ [version])).LeadsTo path parent := by
  have alike : AlikeBeside [parent ++ [name], parent ++ [version]] ready
      (disk.moveTree (parent ++ [name]) (parent ++ [version])) := by
    intro place beside
    rw [filling.alike place (beside_singleton.mpr (beside _ (by simp))),
      entry?_moveTree_of_outside _ (beside _ (by simp)) (beside _ (by simp))]
  exact (fresh.leads.beside alike (by simp [fresh.absent, free.absent])).1

/-- After the move there is no fresh directory left to remove. -/
theorem remove_moved :
    (disk.moveTree (parent ++ [name]) (parent ++ [version])).remove (path.append [name]) =
      disk.moveTree (parent ++ [name]) (parent ++ [version]) := by
  have gone :
      entry? (disk.moveTree (parent ++ [name]) (parent ++ [version])) (parent ++ [name]) = none :=
    entry?_moveTree_of_source _ (ne_nil_of_absent fresh.absent) List.prefix_rfl
      (fun within => different (prefix_sibling_iff.mp within).symm)
  have leads := leadsTo_moved fresh free filling
  simp [remove, leads.locate_missing fresh.walkable fresh.nameable gone]

/-- What is moved to a free place is there, from top to bottom. -/
theorem entry?_moved (rooted : ready.Rooted) (inner : Place) :
    entry? (disk.moveTree (parent ++ [name]) (parent ++ [version])) (parent ++ [version] ++ inner) =
      disk.entry? (parent ++ [name] ++ inner) :=
  entry?_moveTree_of_target (ne_nil_of_absent fresh.absent)
    (sibling_free free different filling rooted) inner

/-- A directory that is moved to a free place beside it is found there. -/
theorem leadsTo_target (rooted : ready.Rooted) :
    (disk.moveTree (parent ++ [name]) (parent ++ [version])).LeadsTo (path.append [version])
      (parent ++ [version]) := by
  have arrived :
      entry? (disk.moveTree (parent ++ [name]) (parent ++ [version])) (parent ++ [version]) =
        some .directory := by
    have moved := entry?_moved fresh free different filling rooted []
    rwa [List.append_nil, List.append_nil, filling.there] at moved
  exact ⟨(leadsTo_moved fresh free filling).locate_directory free.walkable free.nameable arrived _,
    arrived⟩

omit free different in
/-- A move changes nothing but the place that is moved to. -/
theorem alikeBeside_moved (rooted : ready.Rooted) :
    AlikeBeside [parent ++ [version]] ready
      (disk.moveTree (parent ++ [name]) (parent ++ [version])) := by
  intro place beside
  have elsewhere := beside_singleton.mp beside
  by_cases within : parent ++ [name] <+: place
  · rw [entry?_moveTree_of_source _ (ne_nil_of_absent fresh.absent) within elsewhere,
      rooted.absent_below fresh.absent within]
  · rw [entry?_moveTree_of_outside _ within elsewhere,
      filling.alike _ (beside_singleton.mpr within)]

end

end Filling

end Disk

namespace PackageStorage

open Disk

variable {ready disk : Disk} {path : HostPath} {parent : Place} {name version : String}

/-- What is published at a place where nothing is was moved there. -/
theorem publish_free (fresh : ready.FreshPlace path parent name)
    (free : ready.FreshPlace path parent version) (different : name ≠ version)
    (filling : Filling ready disk (parent ++ [name])) :
    publish disk (path.append [name]) (path.append [version]) =
      .value (disk.moveTree (parent ++ [name]) (parent ++ [version])) := by
  have leads := filling.leadsTo_above fresh
  have absent := filling.sibling_absent free different
  have nowhere := leads.locate_missing free.walkable free.nameable absent
  have source := leads.locate_directory fresh.walkable fresh.nameable filling.there ⟨false, false⟩
  have missing : disk.leadsAnywhere (path.append [version]) = .ok false := by
    simp [Disk.leadsAnywhere, holdsAt, stat, nowhere, Bind.bind, Except.bind, DiskFault.meansAbsent]
  simp [publish, missing, source, nowhere, absent]

/-- A package is only moved to a place where nothing was before anything was unpacked. -/
theorem free_of_publish (rooted : ready.Rooted) (fresh : ready.FreshPlace path parent name)
    (filling : Filling ready disk (parent ++ [name])) {place : Place}
    (found : disk.locate (path.append [version]) ⟨false, true⟩ = .ok place)
    (absent : disk.entry? place = none) :
    ready.FreshPlace path parent version ∧ name ≠ version := by
  have outside := (fresh.leads.beside filling.alike (by simpa using fresh.absent)).2
  have upward : disk.entry? parent.dropLast ≠ none := by
    rw [← filling.alike _ outside.dropLast, rooted.dropLast (by simp [fresh.leads.there])]
    simp
  rcases (filling.leadsTo_above fresh).free upward found absent with ⟨rfl, nameable⟩
  have different : name ≠ version := by
    rintro rfl
    cases absent.symm.trans filling.there
  refine ⟨⟨fresh.leads, walkable_of_locate found, nameable, ?_⟩, different⟩
  rw [filling.alike _ (beside_singleton.mpr (different ∘ prefix_sibling_iff.mp)), absent]

theorem publish_iff (rooted : ready.Rooted) (fresh : ready.FreshPlace path parent name)
    (filling : Filling ready disk (parent ++ [name])) :
    (∃ finished, publish disk (path.append [name]) (path.append [version]) = .value finished ∧
      (finished.remove (path.append [name])).isDirectory (path.append [version]) = .ok true) ↔
    ready.HasRoom (path.append [version]) ∧ name ≠ version := by
  constructor
  · rintro ⟨finished, published, there⟩
    simp only [publish] at published
    split at published
    · cases published
    · -- something is at the place: it is kept, so it was a directory before
      cases published
      have before := (isDirectory_congr (filling.alike_remove fresh rooted) _).symm.trans there
      refine ⟨.inl before, ?_⟩
      rintro rfl
      rcases isDirectory_eq_true_iff.mp before with ⟨place, leads⟩
      cases (fresh.leads.locate_missing fresh.walkable fresh.nameable fresh.absent _).symm.trans
        leads.found
    · -- nothing is at the place: the fresh directory is moved there
      split at published
      · next found =>
          split at published
          · cases published
          · next absent =>
              rcases free_of_publish rooted fresh filling found (by simpa using absent) with
                ⟨free, different⟩
              refine ⟨.inr ⟨_, ?_, free.absent⟩, different⟩
              exact free.leads.locate_missing free.walkable free.nameable free.absent _
      · cases published
      · cases published
  · rintro ⟨room, different⟩
    rcases room with found | ⟨place, found, absent⟩
    · refine ⟨disk, ?_, (isDirectory_congr (filling.alike_remove fresh rooted) _).trans found⟩
      simp only [publish, filling.leadsAnywhere fresh found]
    · rcases fresh.leads.freshPlace rooted found absent with ⟨rfl, free⟩
      refine ⟨_, publish_free fresh free different filling, ?_⟩
      rw [filling.remove_moved fresh free different]
      exact isDirectory_eq_true_iff.mpr ⟨_, filling.leadsTo_target fresh free different rooted⟩

end PackageStorage

end Typeset
