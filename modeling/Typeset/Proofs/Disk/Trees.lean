import Mathlib.Data.List.Nodup
import Typeset.Proofs.Disk.Lengths

/-!
# Trees of files

A disk is a tree if every entry is listed once, lies in a directory and has a name that an entry
can have. In a tree the entries below a directory are those at longer places, and a path that
goes on from a directory to another one below it is refused only if it is too long.
-/

namespace Typeset.Disk

open HostPath

variable {disk : Disk} {path : HostPath} {place parent : Place} {names : List String}
  {entry : DiskEntry} {ending : PathEnd} {links : Nat}

/-- A name that an entry can have and that can be written in a path. -/
structure Spellable (name : String) : Prop where
  nameable : Nameable name
  noZero : '\x00' ∉ name.toList

/-- A disk of which all entries are listed once, in directories and under names. -/
structure IsTree (disk : Disk) : Prop where
  rooted : disk.Rooted
  once : (disk.entries.map (·.1)).Nodup
  named : ∀ listed ∈ disk.entries, listed.1 ≠ [] ∧ ∀ name ∈ listed.1, Spellable name

namespace IsTree

theorem mem_entries_iff (tree : disk.IsTree) (below : place ≠ []) :
    (place, entry) ∈ disk.entries ↔ disk.entry? place = some entry := by
  have of_found {found : Place × DiskEntry}
      (first : disk.entries.find? (·.1 == place) = some found) :
      found ∈ disk.entries ∧ found.1 = place := by
    have same := List.find?_some first
    rw [beq_iff_eq] at same
    exact ⟨List.mem_of_find?_eq_some first, same⟩
  rw [entry?_of_ne_nil _ below]
  constructor
  · intro listed
    have finds : (disk.entries.find? (·.1 == place)).isSome = true :=
      List.find?_isSome.mpr ⟨_, listed, beq_self_eq_true place⟩
    rcases Option.isSome_iff_exists.mp finds with ⟨found, first⟩
    rcases of_found first with ⟨member, same⟩
    rw [first, List.inj_on_of_nodup_map tree.once member listed same]
    rfl
  · intro there
    rcases Option.map_eq_some_iff.mp there with ⟨found, first, rfl⟩
    rcases of_found first with ⟨member, rfl⟩
    exact member

theorem spellable (tree : disk.IsTree) (there : disk.entry? place ≠ none) {name : String}
    (member : name ∈ place) : Spellable name := by
  rcases Option.ne_none_iff_exists'.mp there with ⟨entry, there⟩
  have below : place ≠ [] := List.ne_nil_of_mem member
  exact (tree.named _ ((tree.mem_entries_iff below).mpr there)).2 name member

/-! ## Entries below a directory -/

theorem mem_below_iff (tree : disk.IsTree) (more : names ≠ []) :
    (names, entry) ∈ disk.below place ↔ disk.entry? (place ++ names) = some entry := by
  rw [← tree.mem_entries_iff (List.append_ne_nil_of_right_ne_nil place more), below,
    List.mem_filterMap]
  constructor
  · rintro ⟨⟨whole, found⟩, member, kept⟩
    split at kept
    · next within =>
        rcases isWithin_iff.mp within with ⟨rest, rfl⟩
        rw [List.drop_left] at kept
        cases kept
        exact member
    · cases kept
  · intro member
    refine ⟨_, member, ?_⟩
    rw [if_pos (isWithin_iff.mpr (List.prefix_append place names)), List.drop_left]

theorem nodup_below (tree : disk.IsTree) (place : Place) :
    ((disk.below place).map (·.1)).Nodup := by
  have keys : (disk.below place).map (·.1) = (disk.entries.map (·.1)).filterMap fun whole =>
      if isWithin whole place then some (whole.drop place.length) else none := by
    rw [below, List.map_filterMap, List.filterMap_map]
    apply List.filterMap_congr
    intro listed _
    simp only [Function.comp_apply]
    split <;> rfl
  rw [keys]
  apply List.Nodup.filterMap _ tree.once
  intro left right rest leftRest rightRest
  simp only [Option.mem_def, Option.ite_none_right_eq_some, Option.some.injEq] at leftRest rightRest
  rcases isWithin_iff.mp leftRest.1 with ⟨names, rfl⟩
  rcases isWithin_iff.mp rightRest.1 with ⟨names', rfl⟩
  have same := leftRest.2.trans rightRest.2.symm
  rw [List.drop_left, List.drop_left] at same
  rw [same]

/-! ## Walks to directories -/

/-- A path from a directory to a directory below it is refused only if it is too long. -/
theorem stat_directory_below (tree : disk.IsTree) (leads : disk.LeadsTo path parent)
    (more : names ≠ []) (there : disk.entry? (parent ++ names) = some .directory) :
    disk.stat (path.append names) = .ok (parent ++ names, .directory) ∨
      disk.stat (path.append names) = .error .nameTooLong := by
  have start := walkable_of_locate leads.found
  have present : disk.entry? (parent ++ names) ≠ none := by simp [there]
  have noZero : ¬(path.append names).HasZero := by
    intro zero
    refine start.noZero (hasZero_of_append zero ?_)
    intro name member
    exact (tree.spellable present (List.mem_append_right parent member)).noZero
  by_cases short : Text.Utf8.length (path.append names).render.toList ≤ maxPathLength
  · left
    rcases leads.below ⟨noZero, short, start.relative⟩ more with ⟨links, same⟩
    have nameable : ∀ name ∈ names, Nameable name := fun name member =>
      (tree.spellable present (List.mem_append_right parent member)).nameable
    exact stat_eq_ok_iff.mpr ⟨(same _).trans (tree.rooted.follow_directories nameable there), there⟩
  · right
    have refused : disk.locate (path.append names) ⟨true, false⟩ = .error .nameTooLong := by
      rw [locate, if_neg (fun zero => noZero (List.contains_iff_mem.mp zero)),
        if_pos (Nat.not_le.mp short)]
    rw [stat, refused]
    rfl

end IsTree

end Typeset.Disk
