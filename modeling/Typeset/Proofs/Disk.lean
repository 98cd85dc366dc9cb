import Typeset.Disk
import Typeset.Proofs.Text.Split

/-!
# Looking at the disk

What is found on a disk depends only on the entries at its places, however they are
listed. A path with a zero character is refused by every disk, and no other path is
refused for a zero character. To look for a directory is refused only where a name or
the whole path is too long.
-/

namespace Typeset

namespace HostPath

/-- Whether the text of a path has a zero character. -/
def HasZero (path : HostPath) : Prop :=
  '\x00' ∈ path.render.toList

instance (path : HostPath) : Decidable path.HasZero :=
  inferInstanceAs (Decidable (_ ∈ _))

theorem hasZero_iff (path : HostPath) :
    path.HasZero ↔ ∃ component ∈ path.components, '\x00' ∈ component.toList := by
  rcases path with ⟨anchor, components⟩
  cases components with
  | nil => cases anchor <;> simp [HasZero, render, Anchor.render]
  | cons first rest =>
      have text : (render ⟨anchor, first :: rest⟩).toList =
          anchor.render.toList ++ ['/'].intercalate ((first :: rest).map String.toList) := by
        simp [render, String.toList_intercalate]
      have anchorClean : '\x00' ∉ anchor.render.toList := by
        cases anchor <;> simp [Anchor.render]
      rw [HasZero, text, List.mem_append, Text.mem_intercalate_iff (by decide)]
      simp only [anchorClean, false_or, List.mem_map]
      constructor
      · rintro ⟨text, ⟨component, member, rfl⟩, zero⟩
        exact ⟨component, member, zero⟩
      · rintro ⟨component, member, zero⟩
        exact ⟨component.toList, ⟨component, member, rfl⟩, zero⟩

theorem hasZero_of_append {path : HostPath} {components : List String}
    (zero : (path.append components).HasZero)
    (clean : ∀ component ∈ components, '\x00' ∉ component.toList) : path.HasZero := by
  simp only [hasZero_iff] at zero ⊢
  rcases zero with ⟨component, member, zero⟩
  rcases List.mem_append.mp member with member | member
  · exact ⟨component, member, zero⟩
  · exact absurd zero (clean component member)

end HostPath

namespace Disk

variable {left right : Disk}

/-- Two disks have the same entries. -/
def Alike (left right : Disk) : Prop :=
  ∀ place, left.entry? place = right.entry? place

theorem follow_congr (alike : left.Alike right) (ending : PathEnd) (links : Nat) (place : Place)
    (path : List String) :
    left.follow ending links place path = right.follow ending links place path := by
  -- every branch of the walk looks at one place, where the disks agree
  fun_induction left.follow ending links place path
  all_goals rw [follow]
  all_goals grind [Alike]

theorem locate_congr (alike : left.Alike right) (path : HostPath) (ending : PathEnd) :
    left.locate path ending = right.locate path ending := by
  simp only [locate, follow_congr alike]

theorem stat_congr (alike : left.Alike right) (path : HostPath) :
    left.stat path = right.stat path := by
  simp only [stat, locate_congr alike, alike _]

theorem isDirectory_congr (alike : left.Alike right) (path : HostPath) :
    left.isDirectory path = right.isDirectory path := by
  simp only [isDirectory, holdsAt, stat_congr alike]

theorem read_congr (alike : left.Alike right) (path : HostPath) :
    left.read path = right.read path := by
  simp only [read, stat_congr alike]

/-! ## Zero characters -/

theorem follow_ne_zeroInPath (disk : Disk) (ending : PathEnd) (links : Nat) (place : Place)
    (names : List String) : disk.follow ending links place names ≠ .error .zeroInPath := by
  fun_induction disk.follow ending links place names
  all_goals simp_all

theorem locate_eq_zeroInPath_iff (disk : Disk) (path : HostPath) (ending : PathEnd) :
    disk.locate path ending = .error .zeroInPath ↔ path.HasZero := by
  constructor
  · intro refused
    apply Classical.byContradiction
    intro clean
    simp only [locate, if_neg (fun zero => clean (List.contains_iff_mem.mp zero))] at refused
    split at refused
    · cases refused
    · split at refused
      · exact follow_ne_zeroInPath _ _ _ _ _ refused
      · cases refused
  · intro zero
    simp only [locate, if_pos (List.contains_iff_mem.mpr zero)]

theorem stat_eq_zeroInPath_iff (disk : Disk) (path : HostPath) :
    disk.stat path = .error .zeroInPath ↔ path.HasZero := by
  rw [← locate_eq_zeroInPath_iff disk path ⟨true, false⟩, stat]
  cases disk.locate path ⟨true, false⟩ with
  | error fault => simp [bind, Except.bind]
  | ok place =>
      simp only [bind, Except.bind]
      split <;> simp [pure, Except.pure, throw, throwThe, MonadExceptOf.throw]

theorem read_eq_zeroInPath_iff (disk : Disk) (path : HostPath) :
    disk.read path = .error .zeroInPath ↔ path.HasZero := by
  rw [← stat_eq_zeroInPath_iff disk path, read]
  cases disk.stat path with
  | error fault => simp [bind, Except.bind]
  | ok found =>
      simp only [bind, Except.bind]
      split <;> simp [pure, Except.pure, throw, throwThe, MonadExceptOf.throw]

theorem not_hasZero_of_isDirectory {disk : Disk} {path : HostPath}
    (found : disk.isDirectory path = .ok true) : ¬path.HasZero := by
  intro zero
  simp only [isDirectory, holdsAt, (stat_eq_zeroInPath_iff disk path).mpr zero] at found
  cases found

/-! ## Refusals -/

section

variable {disk : Disk} {path : HostPath} {fault : DiskFault}

theorem follow_error {ending : PathEnd} {links : Nat} {place : Place} {names : List String}
    (refused : disk.follow ending links place names = .error fault) :
    fault.meansAbsent = true ∨ fault = .nameTooLong := by
  fun_induction disk.follow ending links place names
  all_goals grind [DiskFault.meansAbsent]

theorem locate_error {ending : PathEnd} (refused : disk.locate path ending = .error fault) :
    fault.meansAbsent = true ∨ fault = .nameTooLong := by
  simp only [locate] at refused
  split at refused
  · cases refused
    exact .inl rfl
  · split at refused
    · cases refused
      exact .inr rfl
    · split at refused
      · exact follow_error refused
      · cases refused
        exact .inl rfl

theorem stat_error (refused : disk.stat path = .error fault) :
    fault.meansAbsent = true ∨ fault = .nameTooLong := by
  rw [stat] at refused
  cases located : disk.locate path ⟨true, false⟩ with
  | error other =>
      simp only [located, bind, Except.bind, Except.error.injEq] at refused
      exact refused ▸ locate_error located
  | ok place =>
      simp only [located, bind, Except.bind] at refused
      split at refused
      · cases refused
      · cases refused
        exact .inl rfl

theorem isDirectory_eq_error_iff : disk.isDirectory path = .error fault ↔
    disk.locate path ⟨true, false⟩ = .error fault ∧ fault.meansAbsent = false := by
  simp only [isDirectory, holdsAt, stat]
  cases disk.locate path ⟨true, false⟩ with
  | error other =>
      cases absent : other.meansAbsent
      · simp only [bind, Except.bind, absent, Bool.false_eq_true, if_false, Except.error.injEq]
        constructor
        · rintro rfl
          exact ⟨rfl, absent⟩
        · exact And.left
      · simp only [bind, Except.bind, absent, if_true, reduceCtorEq, Except.error.injEq, false_iff]
        rintro ⟨rfl, present⟩
        cases absent.symm.trans present
  | ok place =>
      simp only [bind, Except.bind, reduceCtorEq, false_and, iff_false]
      cases disk.entry? place <;> nofun

theorem isDirectory_error (refused : disk.isDirectory path = .error fault) :
    fault = .nameTooLong := by
  rcases isDirectory_eq_error_iff.mp refused with ⟨located, present⟩
  apply (locate_error located).resolve_left
  rw [present]
  nofun

end

end Disk

end Typeset
