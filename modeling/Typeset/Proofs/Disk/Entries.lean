import Typeset.Disk
import Mathlib.Data.List.Basic
import Mathlib.Data.List.Find
import Mathlib.Data.List.Induction

/-!
# The entries of a disk

What is at a place after an entry was put somewhere, a tree was removed or a tree
was moved: the place that was written to holds the entry, and every place outside
the trees concerned holds what it held.

A disk is rooted when whatever has an entry lies in a directory. Below a place that
has no entry, a rooted disk has none.
-/

namespace Typeset.Disk

variable {disk : Disk} {place other source target : Place} {entry : DiskEntry}

@[simp] theorem entry?_nil (disk : Disk) : disk.entry? [] = some .directory :=
  if_pos rfl

theorem entry?_of_ne_nil (disk : Disk) (below : place ≠ []) :
    disk.entry? place = (disk.entries.find? (·.1 == place)).map (·.2) :=
  if_neg below

theorem ne_nil_of_absent (absent : disk.entry? place = none) : place ≠ [] := by
  rintro rfl
  cases (entry?_nil disk).symm.trans absent

theorem isWithin_iff : isWithin other place = true ↔ place <+: other :=
  List.isPrefixOf_iff_prefix

/-! ## Putting an entry -/

theorem entry?_put_self (disk : Disk) (below : place ≠ []) (entry : DiskEntry) :
    entry? (disk.put place entry) place = some entry := by
  have others : (disk.entries.filter (·.1 ≠ place)).find? (·.1 == place) = none := by
    simp [List.find?_eq_none]
  rw [entry?_of_ne_nil _ below, put, List.find?_append, others]
  simp

theorem entry?_put_of_ne (disk : Disk) (different : other ≠ place) (entry : DiskEntry) :
    entry? (disk.put place entry) other = disk.entry? other := by
  by_cases top : other = []
  · simp [top]
  · have others : (disk.entries.filter (·.1 ≠ place)).find? (·.1 == other) =
        disk.entries.find? (·.1 == other) := by
      rw [List.find?_filter]
      exact List.find?_congr fun listed _ => by grind
    rw [entry?_of_ne_nil _ top, entry?_of_ne_nil _ top, put, List.find?_append, others]
    simp [Ne.symm different]

/-! ## Removing and moving a tree -/

theorem entry?_removeTree_of_outside (disk : Disk) (outside : ¬place <+: other) :
    entry? (disk.removeTree place) other = disk.entry? other := by
  by_cases top : other = []
  · simp [top]
  · rw [entry?_of_ne_nil _ top, entry?_of_ne_nil _ top, removeTree, List.find?_filter]
    exact congrArg _ (List.find?_congr fun listed _ => by grind [isWithin_iff])

theorem entry?_removeTree_within (disk : Disk) (top : place ≠ []) (within : place <+: other) :
    entry? (disk.removeTree place) other = none := by
  have below : other ≠ [] := by
    rintro rfl
    exact top (List.prefix_nil.mp within)
  rw [entry?_of_ne_nil _ below, Option.map_eq_none_iff, List.find?_eq_none]
  intro listed kept named
  have outside := (List.mem_filter.mp kept).2
  rw [isWithin_iff.mpr (beq_iff_eq.mp named ▸ within)] at outside
  cases outside

/-- A move changes places and no entries. -/
theorem entry?_moveTree (disk : Disk) (source target : Place) (below : other ≠ []) :
    entry? (disk.moveTree source target) other =
      (disk.entries.find? fun listed =>
        (if isWithin listed.1 source then target ++ listed.1.drop source.length else listed.1) ==
          other).map (·.2) := by
  rw [entry?_of_ne_nil _ below, moveTree, List.find?_map, Option.map_map]
  have sameEntry : ∀ listed : Place × DiskEntry,
      (if isWithin listed.1 source then (target ++ listed.1.drop source.length, listed.2)
        else (listed.1, listed.2)).2 = listed.2 := fun listed => by split <;> rfl
  have samePlace : ∀ listed : Place × DiskEntry,
      (if isWithin listed.1 source then (target ++ listed.1.drop source.length, listed.2)
        else (listed.1, listed.2)).1 =
      if isWithin listed.1 source then target ++ listed.1.drop source.length else listed.1 :=
    fun listed => by split <;> rfl
  simp only [Function.comp_def, sameEntry, samePlace]

theorem entry?_moveTree_of_outside (disk : Disk) (outsideSource : ¬source <+: other)
    (outsideTarget : ¬target <+: other) :
    entry? (disk.moveTree source target) other = disk.entry? other := by
  by_cases top : other = []
  · simp [top]
  · rw [entry?_moveTree _ _ _ top, entry?_of_ne_nil _ top]
    refine congrArg _ (List.find?_congr fun listed _ => ?_)
    by_cases moved : source <+: listed.1
    · have elsewhere : target ++ listed.1.drop source.length ≠ other := by
        rintro rfl
        exact outsideTarget (List.prefix_append _ _)
      have different : listed.1 ≠ other := by
        rintro rfl
        exact outsideSource moved
      simp [isWithin_iff, moved, elsewhere, different]
    · simp [isWithin_iff, moved]

theorem entry?_moveTree_of_source (disk : Disk) (top : source ≠ []) (within : source <+: other)
    (outside : ¬target <+: other) : entry? (disk.moveTree source target) other = none := by
  have below : other ≠ [] := by
    rintro rfl
    exact top (List.prefix_nil.mp within)
  rw [entry?_moveTree _ _ _ below, Option.map_eq_none_iff, List.find?_eq_none]
  intro listed _
  by_cases moved : source <+: listed.1
  · have elsewhere : target ++ listed.1.drop source.length ≠ other := by
      rintro rfl
      exact outside (List.prefix_append _ _)
    simp [isWithin_iff, moved, elsewhere]
  · have different : listed.1 ≠ other := by
      rintro rfl
      exact moved within
    simp [isWithin_iff, moved, different]

/-- What is moved to a place where nothing is, is there as it was. -/
theorem entry?_moveTree_of_target (below : source ≠ [])
    (free : ∀ place, target <+: place → disk.entry? place = none) (inner : Place) :
    entry? (disk.moveTree source target) (target ++ inner) = disk.entry? (source ++ inner) := by
  have top := ne_nil_of_absent (free target List.prefix_rfl)
  rw [entry?_moveTree _ _ _ (by simp [top]), entry?_of_ne_nil _ (by simp [below])]
  refine congrArg _ (List.find?_congr fun listed member => ?_)
  have different : ¬target <+: listed.1 := by
    intro within
    have absent := free listed.1 within
    have deeper : listed.1 ≠ [] := by
      intro empty
      rw [empty] at within
      exact top (List.prefix_nil.mp within)
    rw [entry?_of_ne_nil _ deeper, Option.map_eq_none_iff, List.find?_eq_none] at absent
    exact absent listed member (by simp)
  by_cases moved : source <+: listed.1
  · rcases moved with ⟨rest, same⟩
    simp [isWithin_iff, ← same]
  · have elsewhere : listed.1 ≠ source ++ inner := by
      rintro same
      exact moved (same ▸ List.prefix_append _ _)
    have apart : listed.1 ≠ target ++ inner := by
      rintro same
      exact different (same ▸ List.prefix_append _ _)
    simp [isWithin_iff, moved, apart, elsewhere]

/-! ## Rooted disks -/

/-- Whatever has an entry lies in a directory. -/
def Rooted (disk : Disk) : Prop :=
  ∀ place name, disk.entry? (place ++ [name]) ≠ none → disk.entry? place = some .directory

/-- It is enough that every entry in the list lies in a directory. -/
theorem rooted_of_entries
    (lie : ∀ listed ∈ disk.entries, disk.entry? listed.1.dropLast = some .directory) :
    disk.Rooted := by
  intro place name there
  rw [entry?_of_ne_nil _ (by simp), ne_eq, Option.map_eq_none_iff, List.find?_eq_none] at there
  simp only [not_forall, not_not, beq_iff_eq] at there
  rcases there with ⟨listed, member, named⟩
  have above := lie listed member
  rwa [named, List.dropLast_concat] at above

theorem rooted_empty : empty.Rooted :=
  rooted_of_entries (by simp [empty])

theorem Rooted.dropLast (rooted : disk.Rooted) (there : disk.entry? place ≠ none) :
    disk.entry? place.dropLast = some .directory := by
  rcases place.eq_nil_or_concat with rfl | ⟨above, name, rfl⟩
  · simp
  · rw [List.concat_eq_append] at there ⊢
    rw [List.dropLast_concat]
    exact rooted above name there

theorem Rooted.absent_below (rooted : disk.Rooted) (absent : disk.entry? place = none)
    (below : place <+: other) : disk.entry? other = none := by
  induction other using List.reverseRecOn with
  | nil => exact absurd (List.prefix_nil.mp below) (ne_nil_of_absent absent)
  | append_singleton above name ih =>
      rcases List.prefix_concat_iff.mp below with rfl | below
      · exact absent
      · by_contra there
        cases (rooted above name there).symm.trans (ih below)

/-- What lies above an entry is a directory. -/
theorem Rooted.directory_above (rooted : disk.Rooted) {names : List String} (more : names ≠ [])
    (there : disk.entry? (place ++ names) ≠ none) : disk.entry? place = some .directory := by
  rcases List.exists_cons_of_ne_nil more with ⟨name, rest, rfl⟩
  apply rooted place name
  intro absent
  apply there
  apply rooted.absent_below absent
  exact ⟨rest, (List.append_cons ..).symm⟩

/-- An entry may be put into a directory, unless another kind of entry replaces a directory. -/
theorem Rooted.put (rooted : disk.Rooted) (parent : disk.entry? place.dropLast = some .directory)
    (free : disk.entry? place ≠ some .directory) : (disk.put place entry).Rooted := by
  intro above name there
  have kept : disk.entry? above = some .directory := by
    by_cases here : above ++ [name] = place
    · rw [← here, List.dropLast_concat] at parent
      exact parent
    · rw [entry?_put_of_ne _ here] at there
      exact rooted above name there
  rwa [entry?_put_of_ne _ (by rintro rfl; exact free kept)]

end Typeset.Disk
