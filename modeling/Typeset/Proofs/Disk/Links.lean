import Typeset.Proofs.Disk.Chains

/-!
# Disks without links

On a disk without links, plain names lead straight to the place that they spell. So a path
that leads to no directory leads to none after others were made along another path, unless
it is one of these.
-/

namespace Typeset.Disk

variable {disk made left right : Disk} {ending : PathEnd} {links : Nat} {place : Place}
  {names : List String} {path other : HostPath} {entry : DiskEntry}

/-- No entry is a link. -/
def LinkFree (disk : Disk) : Prop :=
  ∀ place target, disk.entry? place ≠ some (.link target)

/-! ## What keeps a disk without links -/

theorem linkFree_empty : empty.LinkFree := by
  intro place target
  simp [ entry?, empty]

theorem LinkFree.congr (free : disk.LinkFree) (alike : made.Alike disk) : made.LinkFree := by
  intro place target
  rw [alike]
  exact free place target

theorem LinkFree.put (free : disk.LinkFree) (place : Place)
    (noLink : ∀ target, entry ≠ .link target) : (disk.put place entry).LinkFree := by
  intro other target
  by_cases here : other = place
  · subst here
    by_cases top : other = []
    · simp [top]
    · rw [entry?_put_self _ top]
      simpa using noLink target
  · rw [entry?_put_of_ne _ here]
    exact free other target

theorem kept_linkFree : Kept LinkFree where
  makeDirectory := by
    intro disk made path free making
    rcases makeDirectory_eq_ok_iff.mp making with ⟨place, found, absent, rfl⟩
    exact free.put place (by simp)
  write := by
    intro disk made path content free written
    rcases write_eq_ok_iff.mp written with ⟨place, found, kind, rfl⟩
    exact free.put place (by simp)

theorem LinkFree.plantAll (free : disk.LinkFree) {entries : List (HostPath × DiskEntry)}
    (noLinks : ∀ planted ∈ entries, ∀ target, planted.2 ≠ .link target) :
    (disk.plantAll entries).LinkFree := by
  induction entries generalizing disk with
  | nil => exact free
  | cons planted entries ih =>
      rcases List.forall_mem_cons.mp noLinks with ⟨here, later⟩
      refine ih ?_ later
      exact kept_linkFree.plant free planted.1 planted.2 fun same => absurd same (here _)

/-! ## Walks without links -/

theorem LinkFree.follow_ne_nameTooLong (free : disk.LinkFree)
    (nameable : ∀ name ∈ names, Nameable name) :
    disk.follow ending links place names ≠ .error .nameTooLong := by
  induction names generalizing place with
  | nil =>
      rw [follow]
      simp
  | cons name rest ih =>
      rcases List.forall_mem_cons.mp nameable with ⟨first, others⟩
      rw [follow, if_neg first.notUp, if_neg (Nat.not_lt.mpr first.short)]
      cases there : disk.entry? (place ++ [name]) with
      | none =>
          simp only [there]
          split <;> simp
      | some entry =>
          cases entry with
          | directory =>
              simp only [there]
              exact ih others
          | file content =>
              simp only [there]
              split <;> simp
          | link target => exact absurd there (free _ target)

theorem plain_of_nameable (nameable : ∀ name ∈ names, Nameable name) : ".." ∉ names :=
  fun up => (nameable _ up).notUp rfl

theorem LinkFree.place_eq (free : disk.LinkFree) (leads : disk.LeadsTo path place)
    (plain : ".." ∉ path.components) : place = path.components :=
  (arrives_of_locate leads.found).straight plain fun other target _ => free other target

theorem LinkFree.isDirectory_eq_true_iff (free : disk.LinkFree) (rooted : disk.Rooted)
    (walkable : path.Walkable) (nameable : ∀ name ∈ path.components, Nameable name) :
    disk.isDirectory path = .ok true ↔ disk.entry? path.components = some .directory := by
  rw [Disk.isDirectory_eq_true_iff]
  constructor
  · rintro ⟨place, leads⟩
    rw [← free.place_eq leads (plain_of_nameable nameable)]
    exact leads.there
  · intro there
    refine ⟨path.components, ?_, there⟩
    rw [locate_of_walkable walkable]
    exact rooted.follow_directories nameable there

theorem LinkFree.isDirectory_ne_error (free : disk.LinkFree) (walkable : path.Walkable)
    (nameable : ∀ name ∈ path.components, Nameable name) (fault : DiskFault) :
    disk.isDirectory path ≠ .error fault := by
  intro refused
  rcases isDirectory_eq_error_iff.mp refused with ⟨located, present⟩
  rw [locate_of_walkable walkable] at located
  rcases follow_error located with absent | long
  · cases absent.symm.trans present
  · exact free.follow_ne_nameTooLong nameable (long ▸ located)

/-- Why a path cannot be walked along at all does not depend on the disk. -/
theorem locate_of_not_walkable (stuck : ¬path.Walkable) (left right : Disk) (ending : PathEnd) :
    left.locate path ending = right.locate path ending := by
  simp only [locate]
  split
  · rfl
  · next noZero =>
      split
      · rfl
      · next short =>
          split
          · next relative =>
              refine absurd ⟨?_, Nat.not_lt.mp short, relative⟩ stuck
              exact fun zero => noZero (List.contains_iff_mem.mpr zero)
          · rfl

theorem isDirectory_of_not_walkable (stuck : ¬path.Walkable) (left right : Disk) :
    left.isDirectory path = right.isDirectory path := by
  have same := locate_of_not_walkable stuck left right ⟨true, false⟩
  cases located : left.locate path ⟨true, false⟩ with
  | ok place => exact absurd (walkable_of_locate located) stuck
  | error fault =>
      simp only [isDirectory, holdsAt, stat, located, same ▸ located, bind, Except.bind]

/-! ## Directories along a path -/

theorem AddsAlong.linkFree (adds : AddsAlong path disk made) (free : disk.LinkFree) :
    made.LinkFree := by
  cases adds with
  | nothing => exact free
  | @chain _ front rest name parent split leads chain =>
      intro place target there
      by_cases within : parent ++ [name] <+: place
      · exact chain.noLinks place target within there
      · rw [← chain.alike place (by simpa [Beside] using within)] at there
        exact free place target there

/-- A path leads to no directory that was made along another, unless it is one of these. -/
theorem AddsAlong.isDirectory_eq_false (adds : AddsAlong path disk made) (free : disk.LinkFree)
    (rooted : disk.Rooted) (still : made.Rooted) (plain : ".." ∉ path.components)
    (nameable : ∀ name ∈ other.components, Nameable name)
    (aside : ¬other.components <+: path.components)
    (missing : disk.isDirectory other = .ok false) : made.isDirectory other = .ok false := by
  by_cases walkable : other.Walkable
  · cases looked : made.isDirectory other with
    | error fault =>
        exact absurd looked ((adds.linkFree free).isDirectory_ne_error walkable nameable fault)
    | ok found =>
        cases found with
        | false => rfl
        | true =>
            have there := ((adds.linkFree free).isDirectory_eq_true_iff still walkable
              nameable).mp looked
            have absent : disk.entry? other.components ≠ some .directory := by
              intro before
              have found := (free.isDirectory_eq_true_iff rooted walkable nameable).mpr before
              cases missing.symm.trans found
            cases adds with
            | nothing => exact absurd there absent
            | @chain _ front rest name parent split leads chain =>
                have plainFront : ".." ∉ front := by
                  intro up
                  exact plain (split ▸ List.mem_append_left _ up)
                cases free.place_eq leads plainFront
                by_cases within : front ++ [name] <+: other.components
                · have along := (chain.only _ _ within there).2
                  rw [List.append_assoc, List.singleton_append, ← split] at along
                  exact absurd along aside
                · rw [← chain.alike _ (by simpa [Beside] using within)] at there
                  exact absurd there absent
  · rw [isDirectory_of_not_walkable walkable made disk]
    exact missing

end Typeset.Disk
