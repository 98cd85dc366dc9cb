import Typeset.Archive
import Typeset.Proofs.Disk.Making

/-!
# Extraction stays in its directory

A fresh directory is made at a place where nothing is. Whatever members are extracted
into it that do not leave it by their paths, in whatever order, the disk outside the
directory keeps every entry: the directory holds no links, so a path that does not climb
above its start leads to a place below the start. Members that were all checked before,
or each in its turn, do not leave the directory.
-/

namespace Typeset

/-! ## The extraction of one member -/

namespace ArchiveData

/-- The directory above a path, made with those above it if nothing is there. -/
def withAbove (disk : Disk) (path : HostPath) : Except DiskFault Disk :=
  match disk.leadsAnywhere path.parent with
  | .ok true => .ok disk
  | _ => makeMissing disk path.parent path.components.length

theorem withAbove_of_leadsAnywhere {disk : Disk} {path : HostPath}
    (above : disk.leadsAnywhere path.parent = .ok true) : withAbove disk path = .ok disk := by
  simp only [withAbove, above]

theorem withAbove_of_missing {disk : Disk} {path : HostPath}
    (missing : disk.leadsAnywhere path.parent ≠ .ok true) :
    withAbove disk path = makeMissing disk path.parent path.components.length := by
  rw [withAbove]
  cases looked : disk.leadsAnywhere path.parent with
  | error fault => rfl
  | ok found =>
      cases found with
      | true => exact absurd looked missing
      | false => rfl

/-- What a member puts at its path, when the directory above is there. -/
def putMember (disk : Disk) (path : HostPath) : Option Bytes → Except DiskFault Disk
  | some content => disk.write path content
  | none =>
      match disk.makeDirectory path with
      | .error .alreadyExists => .ok disk
      | result => result

theorem extractMember_eq (disk : Disk) (directory : HostPath) (member : ArchiveMember) :
    extractMember disk directory member =
      (withAbove disk (directory.append (HostPath.parse member.name).components)).bind
        (putMember · (directory.append (HostPath.parse member.name).components)
          member.content) := by
  rcases member with ⟨name, content⟩
  simp only [extractMember, withAbove, bind, pure]
  generalize directory.append _ = path
  cases disk.leadsAnywhere path.parent with
  | error fault => cases content <;> rfl
  | ok found => cases found <;> cases content <;> rfl

/-! ## The checks of members -/

variable {disk made : Disk} {directory : HostPath} {member : ArchiveMember}
  {members : List ArchiveMember}

/-- What is extracted after a check of all members is extracted from members that stay inside. -/
theorem of_extractSafe (extracted : extractSafe disk directory members = .ok made) :
    (∀ member ∈ members, staysInside member = true) ∧
      extract disk directory members = .ok made := by
  simp only [extractSafe] at extracted
  cases offends : offender? members with
  | some member =>
      rw [offends] at extracted
      cases extracted
  | none =>
      rw [offends] at extracted
      refine ⟨?_, extracted⟩
      intro member listed
      have harmless := List.find?_eq_none.mp offends member listed
      simp only [isSafe, Bool.or_eq_true, Bool.not_eq_true', not_or, Bool.not_eq_false,
        Bool.and_eq_true] at harmless
      exact harmless.2.2

/-- A member that is checked in its turn, and extracted. -/
structure Takes (disk : Disk) (directory : HostPath) (member : ArchiveMember) (made : Disk) :
    Prop where
  proper : member.hasZero = false
  inside : staysInside member = true
  extracted : extractMember disk directory member = .ok made

theorem Takes.extractInTurn (takes : Takes disk directory member made) :
    extractInTurn disk directory (member :: members) = extractInTurn made directory members := by
  rw [ArchiveData.extractInTurn, if_neg (by simp [takes.proper]), if_neg (by simp [takes.inside]),
    takes.extracted]

/-- Members checked in turn are refused at the first one, or that is taken and the others follow. -/
theorem extractInTurn_cons (disk : Disk) (directory : HostPath) (member : ArchiveMember)
    (members : List ArchiveMember) :
    (∃ refusal, extractInTurn disk directory (member :: members) = .error refusal ∧
      (refusal = .zeroInName → member.hasZero = true)) ∨
    ∃ made, Takes disk directory member made := by
  rw [extractInTurn]
  split
  · next zero => exact .inl ⟨_, rfl, fun _ => zero⟩
  · next proper =>
      split
      · exact .inl ⟨_, rfl, nofun⟩
      · next inside =>
          cases one : extractMember disk directory member with
          | error fault => exact .inl ⟨_, rfl, nofun⟩
          | ok made => exact .inr ⟨made, by simpa using proper, by simpa using inside, one⟩

/-- A check of each member in its turn makes no difference to what is extracted. -/
theorem of_extractInTurn (extracted : extractInTurn disk directory members = .ok made) :
    (∀ member ∈ members, staysInside member = true) ∧
      extract disk directory members = .ok made := by
  induction members generalizing disk with
  | nil => exact ⟨by simp, extracted⟩
  | cons member members ih =>
      rcases extractInTurn_cons disk directory member members with ⟨_, refused, -⟩ | ⟨_, takes⟩
      · cases refused.symm.trans extracted
      · rw [takes.extractInTurn] at extracted
        rcases ih extracted with ⟨others, rest⟩
        refine ⟨List.forall_mem_cons.mpr ⟨takes.inside, others⟩, ?_⟩
        rw [extract, takes.extracted]
        exact rest

/-- The extraction itself is refused by the system only. -/
theorem extract_ne_zeroInName (disk : Disk) (directory : HostPath)
    (members : List ArchiveMember) : extract disk directory members ≠ .error .zeroInName := by
  induction members generalizing disk with
  | nil => nofun
  | cons member members ih =>
      rw [extract]
      cases extractMember disk directory member with
      | error fault => nofun
      | ok grown => exact ih grown

theorem extractSafe_eq_zeroInName_iff :
    extractSafe disk directory members = .error .zeroInName ↔
      ∃ member, offender? members = some member ∧ member.hasZero = true := by
  simp only [extractSafe]
  cases offender? members with
  | none => simpa using extract_ne_zeroInName disk directory members
  | some member => cases zero : member.hasZero <;> simp [zero]

/-- The first member without a proper name is met when all members before it are extracted. -/
theorem extractInTurn_eq_zeroInName_iff :
    extractInTurn disk directory members = .error .zeroInName ↔
      ∃ before member after grown, members = before ++ member :: after ∧
        extractInTurn disk directory before = .ok grown ∧ member.hasZero = true := by
  induction members generalizing disk with
  | nil => simp [extractInTurn]
  | cons first members ih =>
      constructor
      · intro broken
        rcases extractInTurn_cons disk directory first members with
          ⟨refusal, refused, zero⟩ | ⟨made, takes⟩
        · cases refused.symm.trans broken
          exact ⟨[], first, members, disk, rfl, rfl, zero rfl⟩
        · rw [takes.extractInTurn] at broken
          rcases ih.mp broken with ⟨before, member, after, grown, rfl, extracted, zero⟩
          refine ⟨first :: before, member, after, grown, rfl, ?_, zero⟩
          rw [takes.extractInTurn]
          exact extracted
      · rintro ⟨before, member, after, grown, same, extracted, zero⟩
        cases before with
        | nil =>
            cases same
            rw [extractInTurn, if_pos zero]
        | cons _ before =>
            cases same
            rcases extractInTurn_cons disk directory first before with
              ⟨_, refused, -⟩ | ⟨made, takes⟩
            · cases refused.symm.trans extracted
            · rw [takes.extractInTurn] at extracted ⊢
              exact ih.mpr ⟨before, member, after, grown, rfl, extracted, zero⟩

end ArchiveData

/-! ## Directories that are filled -/

namespace Disk

/-- A place in a directory where nothing is, and the path of the directory. -/
structure FreshPlace (disk : Disk) (path : HostPath) (parent : Place) (name : String) : Prop where
  leads : disk.LeadsTo path parent
  walkable : (path.append [name]).Walkable
  nameable : Nameable name
  absent : disk.entry? (parent ++ [name]) = none

/--
A disk while a directory is filled that was fresh on another disk: nothing else has
changed, and the directory holds no links.
-/
structure Filling (ready disk : Disk) (root : Place) : Prop where
  alike : AlikeBeside [root] ready disk
  there : disk.entry? root = some .directory
  noLinks : ∀ place target, root <+: place → disk.entry? place ≠ some (.link target)

variable {ready disk made : Disk} {path : HostPath} {parent root place : Place} {name : String}
  {names : List String} {ending : PathEnd} {links : Nat} {entry : DiskEntry} {content : Bytes}

/-- Where a path leads to nothing, there is a fresh place. -/
theorem LeadsTo.freshPlace (leads : disk.LeadsTo path parent) (rooted : disk.Rooted)
    {missing : Bool} (found : disk.locate (path.append [name]) ⟨false, missing⟩ = .ok place)
    (absent : disk.entry? place = none) :
    place = parent ++ [name] ∧ disk.FreshPlace path parent name := by
  have upward : disk.entry? parent.dropLast = some .directory :=
    rooted.dropLast (by simp [leads.there])
  rcases leads.free (by simp [upward]) found absent with ⟨rfl, nameable⟩
  exact ⟨rfl, leads, walkable_of_locate found, nameable, absent⟩

theorem beside_singleton : Beside [root] place ↔ ¬root <+: place := by
  simp [Beside]

theorem FreshPlace.filling (fresh : ready.FreshPlace path parent name) (rooted : ready.Rooted) :
    Filling ready (ready.put (parent ++ [name]) .directory) (parent ++ [name]) where
  alike place beside := by
    rw [entry?_put_of_ne]
    rintro rfl
    exact beside_singleton.mp beside List.prefix_rfl
  there := entry?_put_self _ (ne_nil_of_absent fresh.absent) _
  noLinks place target within := by
    by_cases here : place = parent ++ [name]
    · rw [here, entry?_put_self _ (ne_nil_of_absent fresh.absent)]
      simp
    · simp [entry?_put_of_ne _ here, rooted.absent_below fresh.absent within]

open ArchiveData (staysWithin staysInside)

theorem staysWithin_cons (notUp : name ≠ "..") (depth : Nat) :
    staysWithin depth (name :: names) = staysWithin (depth + 1) names := by
  simp [staysWithin]

theorem staysWithin_of_start {front : List String} (start : front <+: names) {depth : Nat}
    (stays : staysWithin depth names = true) : staysWithin depth front = true := by
  rcases start with ⟨back, rfl⟩
  induction front generalizing depth with
  | nil => rfl
  | cons name front ih =>
      by_cases up : name = ".."
      · subst up
        simp only [List.cons_append, staysWithin, Bool.and_eq_true] at stays ⊢
        exact ⟨stays.1, ih stays.2⟩
      · rw [List.cons_append, staysWithin_cons up] at stays
        rw [staysWithin_cons up]
        exact ih stays

namespace Filling

theorem put (filling : Filling ready disk root) (within : root <+: place)
    (free : disk.entry? place ≠ some .directory) (noLink : ∀ target, entry ≠ .link target) :
    Filling ready (disk.put place entry) root where
  alike other beside := by
    rw [filling.alike other beside, entry?_put_of_ne]
    rintro rfl
    exact beside_singleton.mp beside within
  there := by
    rw [entry?_put_of_ne, filling.there]
    rintro rfl
    exact free filling.there
  noLinks other target below := by
    by_cases here : other = place
    · subst here
      rw [entry?_put_self _ (by rintro rfl; exact free (entry?_nil _))]
      simpa using noLink target
    · rw [entry?_put_of_ne _ here]
      exact filling.noLinks other target below

/-- A walk in the directory that does not climb above it stays in it. -/
theorem within (filling : Filling ready disk root) {start : Place} (inside : root <+: start)
    (stays : staysWithin (start.length - root.length) names = true)
    (arrives : disk.Arrives ending links start names place) : root <+: place := by
  -- the depth that `staysWithin` counts is how far the walk has come below the root
  induction arrives with
  | here => exact inside
  | up _ _ ih =>
      rcases inside with ⟨deeper, rfl⟩
      simp only [staysWithin, Bool.and_eq_true, decide_eq_true_eq, List.length_append,
        Nat.add_sub_cancel_left] at stays
      have climbs : deeper ≠ [] := fun top => stays.1 (by rw [top, List.length_nil])
      rw [List.dropLast_append_of_ne_nil climbs] at ih
      exact ih (List.prefix_append _ _) (by simpa using stays.2)
  | @into _ start name _ _ nameable _ _ ih =>
      refine ih (inside.trans (List.prefix_append _ _)) ?_
      rw [staysWithin_cons nameable.notUp, ← Nat.sub_add_comm inside.length_le] at stays
      rwa [List.length_append, List.length_singleton]
  | atMissing | atFile => exact inside.trans (List.prefix_append _ _)
  | atLink _ link => exact absurd link (filling.noLinks _ _ (inside.trans (List.prefix_append _ _)))
  | through _ link =>
      exact absurd link (filling.noLinks _ _ (inside.trans (List.prefix_append _ _)))

variable (fresh : ready.FreshPlace path parent name)
  (filling : Filling ready disk (parent ++ [name]))

include fresh filling

theorem leadsTo_above : disk.LeadsTo path parent :=
  (fresh.leads.beside filling.alike (by simpa using fresh.absent)).1

/-- Paths in the directory that do not climb above it lead to places in it. -/
theorem within_locate (stays : staysWithin 0 names = true)
    (found : disk.locate ((path.append [name]).append names) ending = .ok place) :
    parent ++ [name] <+: place := by
  have whole : (path.append [name]).append names = path.append (name :: names) := by
    simp [HostPath.append]
  rw [whole] at found
  rcases (leadsTo_above fresh filling).below (walkable_of_locate found) (List.cons_ne_nil _ _) with
    ⟨links, same⟩
  rw [same, follow_into fresh.nameable filling.there] at found
  exact filling.within List.prefix_rfl (by simpa using stays) (arrives_of_follow found)

theorem makeDirectory (stays : staysWithin 0 names = true)
    (making : disk.makeDirectory ((path.append [name]).append names) = .ok made) :
    Filling ready made (parent ++ [name]) := by
  rcases makeDirectory_eq_ok_iff.mp making with ⟨place, found, absent, rfl⟩
  exact filling.put (within_locate fresh filling stays found) (by simp [absent]) (by simp)

theorem write (stays : staysWithin 0 names = true)
    (written : disk.write ((path.append [name]).append names) content = .ok made) :
    Filling ready made (parent ++ [name]) := by
  rcases write_eq_ok_iff.mp written with ⟨place, found, other, rfl⟩
  exact filling.put (within_locate fresh filling stays found) other (by simp)

/-- Above a path in the directory that leads nowhere is the path of another place in it. -/
theorem parent_of_missing
    (missing : disk.leadsAnywhere ((path.append [name]).append names).parent ≠ .ok true) :
    ((path.append [name]).append names).parent = (path.append [name]).append names.dropLast := by
  have deeper : names ≠ [] := by
    rintro rfl
    refine missing ?_
    rw [show ((path.append [name]).append []).parent = path by
      simp [HostPath.append, HostPath.parent]]
    exact (leadsTo_above fresh filling).leadsAnywhere
  simp only [HostPath.append, HostPath.parent, List.dropLast_append_of_ne_nil deeper]

omit filling in
theorem makeMissing (filling : Filling ready disk (parent ++ [name])) {levels : Nat}
    (stays : staysWithin 0 names = true)
    (making :
      ArchiveData.makeMissing disk ((path.append [name]).append names) levels = .ok made) :
    Filling ready made (parent ++ [name]) := by
  induction levels generalizing names made with
  | zero => exact makeDirectory fresh filling stays making
  | succ levels ih =>
      simp only [ArchiveData.makeMissing] at making
      split at making
      · exact makeDirectory fresh filling stays making
      · next missing =>
          rw [parent_of_missing fresh filling missing] at making
          split at making
          · next above =>
              have filled := ih (staysWithin_of_start names.dropLast_prefix stays) above
              exact makeDirectory fresh filled stays making
          · exact makeDirectory fresh filling stays making
          · cases making

theorem withAbove (stays : staysWithin 0 names = true)
    (extracted : ArchiveData.withAbove disk ((path.append [name]).append names) = .ok made) :
    Filling ready made (parent ++ [name]) := by
  by_cases above :
      disk.leadsAnywhere ((path.append [name]).append names).parent = .ok true
  · rw [ArchiveData.withAbove_of_leadsAnywhere above] at extracted
    cases extracted
    exact filling
  · rw [ArchiveData.withAbove_of_missing above, parent_of_missing fresh filling above] at extracted
    exact makeMissing fresh filling (staysWithin_of_start names.dropLast_prefix stays) extracted

theorem putMember (stays : staysWithin 0 names = true) {content : Option Bytes}
    (extracted : ArchiveData.putMember disk ((path.append [name]).append names) content =
      .ok made) :
    Filling ready made (parent ++ [name]) := by
  cases content with
  | some content => exact write fresh filling stays extracted
  | none =>
      simp only [ArchiveData.putMember] at extracted
      split at extracted
      · cases extracted
        exact filling
      · exact makeDirectory fresh filling stays extracted

theorem extractMember {member : ArchiveMember} (inside : staysInside member = true)
    (extracted : ArchiveData.extractMember disk (path.append [name]) member = .ok made) :
    Filling ready made (parent ++ [name]) := by
  rw [ArchiveData.extractMember_eq] at extracted
  -- the directories above the member are there, or are made first
  cases above : ArchiveData.withAbove disk
      ((path.append [name]).append (HostPath.parse member.name).components) with
  | error fault =>
      rw [above] at extracted
      cases extracted
  | ok ready =>
      rw [above] at extracted
      exact putMember fresh (withAbove fresh filling inside above) inside extracted

theorem extract {members : List ArchiveMember}
    (inside : ∀ member ∈ members, staysInside member = true)
    (extracted : ArchiveData.extract disk (path.append [name]) members = .ok made) :
    Filling ready made (parent ++ [name]) := by
  induction members generalizing disk with
  | nil =>
      cases extracted
      exact filling
  | cons member members ih =>
      simp only [ArchiveData.extract] at extracted
      split at extracted
      · next one =>
          rcases List.forall_mem_cons.mp inside with ⟨first, others⟩
          exact ih (extractMember fresh filling first one) others extracted
      · cases extracted

end Filling

end Disk

end Typeset
