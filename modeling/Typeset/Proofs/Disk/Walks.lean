import Typeset.Proofs.Disk
import Typeset.Proofs.Disk.Entries

/-!
# Walks over a disk

A walk along a path that arrives somewhere looks at one entry after another, and
each entry says how the walk goes on. A walk that arrives at an entry depends on no
place below one that is empty, so it arrives there on every disk that differs only
at such places. From a directory where one walk arrives, a longer path goes on like
a walk that starts there.
-/

namespace Typeset.Disk

/-- A name that something in a directory can have. -/
structure Nameable (name : String) : Prop where
  notUp : name ≠ ".."
  short : Text.Utf8.length name.toList ≤ maxNameLength

/-- The steps of a walk from a directory that arrives at a place. -/
inductive Arrives (disk : Disk) (ending : PathEnd) : Nat → Place → List String → Place → Prop
  | here {links place} : Arrives disk ending links place [] place
  | up {links place rest result} (below : place ≠ [])
      (onward : Arrives disk ending links place.dropLast rest result) :
      Arrives disk ending links place (".." :: rest) result
  | into {links place name rest result} (nameable : Nameable name)
      (there : disk.entry? (place ++ [name]) = some .directory)
      (onward : Arrives disk ending links (place ++ [name]) rest result) :
      Arrives disk ending links place (name :: rest) result
  | atMissing {links place name} (nameable : Nameable name)
      (absent : disk.entry? (place ++ [name]) = none) (allowed : ending.mayBeMissing = true) :
      Arrives disk ending links place [name] (place ++ [name])
  | atFile {links place name content} (nameable : Nameable name)
      (there : disk.entry? (place ++ [name]) = some (.file content)) :
      Arrives disk ending links place [name] (place ++ [name])
  | atLink {links place name target} (nameable : Nameable name)
      (there : disk.entry? (place ++ [name]) = some (.link target))
      (stays : ending.throughLink = false) :
      Arrives disk ending links place [name] (place ++ [name])
  | through {links place name rest target result} (nameable : Nameable name)
      (there : disk.entry? (place ++ [name]) = some (.link target))
      (followed : rest = [] → ending.throughLink = true) (relative : target.anchor = .relative)
      (onward : Arrives disk ending links place (target.components ++ rest) result) :
      Arrives disk ending (links + 1) place (name :: rest) result

variable {disk left right : Disk} {ending : PathEnd} {links : Nat} {place result : Place}
  {name : String} {path rest : List String} {entry : DiskEntry} {roots : List Place}

theorem arrives_of_follow (found : disk.follow ending links place path = .ok result) :
    disk.Arrives ending links place path result := by
  fun_induction disk.follow ending links place path
  case case1 =>
    cases found
    exact .here
  case case3 below ih => exact .up below (ih found)
  case case5 notUp short _ absent last =>
    rcases last with ⟨rfl, allowed⟩
    rw [← Except.ok.inj found]
    exact .atMissing ⟨notUp, Nat.not_lt.mp short⟩ absent allowed
  case case7 notUp short _ there ih => exact .into ⟨notUp, Nat.not_lt.mp short⟩ there (ih found)
  case case8 notUp short _ _ there =>
    rw [← Except.ok.inj found]
    exact .atFile ⟨notUp, Nat.not_lt.mp short⟩ there
  case case10 notUp short _ _ there last =>
    rcases last with ⟨rfl, stays⟩
    rw [← Except.ok.inj found]
    exact .atLink ⟨notUp, Nat.not_lt.mp short⟩ there (by simpa using stays)
  case case12 notUp short _ _ there last _ relative ih =>
    exact .through ⟨notUp, Nat.not_lt.mp short⟩ there (by simpa using last) relative (ih found)
  all_goals cases found

theorem follow_of_arrives (arrives : disk.Arrives ending links place path result) :
    disk.follow ending links place path = .ok result := by
  induction arrives with
  | here => rw [follow]
  | up below _ ih => rw [follow, if_pos rfl, if_neg below, ih]
  | into nameable | atMissing nameable | atFile nameable | atLink nameable | through nameable =>
      rw [follow, if_neg nameable.notUp, if_neg (Nat.not_lt.mpr nameable.short)]
      simp_all

theorem follow_into (nameable : Nameable name)
    (there : disk.entry? (place ++ [name]) = some .directory) :
    disk.follow ending links place (name :: rest) =
      disk.follow ending links (place ++ [name]) rest := by
  rw [follow, if_neg nameable.notUp, if_neg (Nat.not_lt.mpr nameable.short)]
  simp only [there]

theorem follow_up (below : place ≠ []) :
    disk.follow ending links place (".." :: rest) =
      disk.follow ending links place.dropLast rest := by
  rw [follow, if_pos rfl, if_neg below]

theorem follow_through {target : HostPath} (nameable : Nameable name)
    (there : disk.entry? (place ++ [name]) = some (.link target))
    (followed : rest = [] → ending.throughLink = true) (relative : target.anchor = .relative) :
    disk.follow ending (links + 1) place (name :: rest) =
      disk.follow ending links place (target.components ++ rest) := by
  rw [follow, if_neg nameable.notUp, if_neg (Nat.not_lt.mpr nameable.short)]
  simp only [there, relative]
  rw [if_neg (by simpa using followed)]

theorem follow_missing (nameable : Nameable name) (absent : disk.entry? (place ++ [name]) = none)
    (required : ending.mayBeMissing = false) :
    disk.follow ending links place (name :: rest) = .error .notFound := by
  rw [follow, if_neg nameable.notUp, if_neg (Nat.not_lt.mpr nameable.short)]
  simp [absent, required]

/-- A walk to a directory, along the names that lead there, goes straight down. -/
theorem Rooted.follow_directories (rooted : disk.Rooted) {names : List String}
    (nameable : ∀ name ∈ names, Nameable name)
    (there : disk.entry? (place ++ names) = some .directory) :
    disk.follow ending links place names = .ok (place ++ names) := by
  induction names generalizing place with
  | nil => rw [follow, List.append_nil]
  | cons name rest ih =>
      rcases List.forall_mem_cons.mp nameable with ⟨first, others⟩
      have inside : disk.entry? (place ++ [name] ++ rest) = some .directory := by
        rwa [← List.append_cons]
      have entered : disk.entry? (place ++ [name]) = some .directory := by
        by_cases last : rest = []
        · rwa [last, List.append_nil] at inside
        · exact rooted.directory_above last (inside ▸ Option.some_ne_none _)
      rw [follow_into first entered, ih others inside, ← List.append_cons]

/-! ## Walks on other disks and to other ends -/

/-- A place that lies at or below none of some places. -/
def Beside (roots : List Place) (place : Place) : Prop :=
  ∀ root ∈ roots, ¬root <+: place

/-- Two disks have the same entries outside some trees. -/
def AlikeBeside (roots : List Place) (left right : Disk) : Prop :=
  ∀ place, Beside roots place → left.entry? place = right.entry? place

theorem Beside.dropLast (beside : Beside roots place) : Beside roots place.dropLast :=
  fun root member within => beside root member (within.trans place.dropLast_prefix)

/-- A step that meets an entry does not enter a tree whose root is missing. -/
theorem Beside.step (beside : Beside roots place)
    (absent : ∀ root ∈ roots, disk.entry? root = none)
    (there : disk.entry? (place ++ [name]) = some entry) : Beside roots (place ++ [name]) := by
  intro root member within
  rcases List.prefix_concat_iff.mp within with rfl | within
  · cases (absent _ member).symm.trans there
  · exact beside root member within

theorem Arrives.append (arrives : disk.Arrives ending links place path result)
    (through : ending.throughLink = true) (there : disk.entry? result = some .directory) :
    ∃ left, ∀ ending names, names ≠ [] →
      disk.follow ending links place (path ++ names) = disk.follow ending left result names := by
  -- what is left of the links at the end of the walk is what the longer path may still use
  induction arrives with
  | @here links place => exact ⟨links, fun _ _ _ => rfl⟩
  | up below _ ih =>
      rcases ih there with ⟨left, same⟩
      refine ⟨left, fun ending names more => ?_⟩
      rw [List.cons_append, follow, if_pos rfl, if_neg below, same ending names more]
  | into nameable entry _ ih =>
      rcases ih there with ⟨left, same⟩
      refine ⟨left, fun ending names more => ?_⟩
      rw [List.cons_append, follow_into nameable entry, same ending names more]
  | through nameable entry _ relative _ ih =>
      rcases ih there with ⟨left, same⟩
      refine ⟨left, fun ending names more => ?_⟩
      rw [List.cons_append, follow, if_neg nameable.notUp, if_neg (Nat.not_lt.mpr nameable.short)]
      simp only [entry, List.append_eq_nil_iff, more, and_false, false_and, if_false, relative,
        ← List.append_assoc, same ending names more]
  | atMissing _ absent => cases absent.symm.trans there
  | atFile _ entry => cases entry.symm.trans there
  | atLink _ _ stays => cases stays.symm.trans through

theorem Arrives.beside (arrives : left.Arrives ending links place path result)
    (alike : AlikeBeside roots left right) (absent : ∀ root ∈ roots, left.entry? root = none)
    (outside : Beside roots place) (there : left.entry? result ≠ none) :
    right.Arrives ending links place path result ∧ Beside roots result := by
  -- every entry that the walk meets lies outside the trees, where both disks have it
  induction arrives with
  | here => exact ⟨.here, outside⟩
  | up below _ ih =>
      rcases ih outside.dropLast there with ⟨onward, landed⟩
      exact ⟨.up below onward, landed⟩
  | into nameable entry _ ih =>
      have next := outside.step absent entry
      rcases ih next there with ⟨onward, landed⟩
      exact ⟨.into nameable (alike _ next ▸ entry) onward, landed⟩
  | atMissing _ missing => exact absurd missing there
  | atFile nameable entry =>
      have next := outside.step absent entry
      exact ⟨.atFile nameable (alike _ next ▸ entry), next⟩
  | atLink nameable entry stays =>
      have next := outside.step absent entry
      exact ⟨.atLink nameable (alike _ next ▸ entry) stays, next⟩
  | through nameable entry followed relative _ ih =>
      have next := outside.step absent entry
      rcases ih outside there with ⟨onward, landed⟩
      exact ⟨.through nameable (alike _ next ▸ entry) followed relative onward, landed⟩

/-- On a rooted disk a walk stays in directories, up to its last step. -/
theorem Arrives.parent (arrives : disk.Arrives ending links place path result)
    (rooted : disk.Rooted) (start : disk.entry? place = some .directory) :
    disk.entry? result.dropLast = some .directory := by
  induction arrives with
  | here => exact rooted.dropLast (by simp [start])
  | up _ _ ih => exact ih (rooted.dropLast (by simp [start]))
  | into _ entry _ ih => exact ih entry
  | atMissing | atFile | atLink => rwa [List.dropLast_concat]
  | through _ _ _ _ _ ih => exact ih start

/-- A walk that arrives where nothing is arrives at the directory that is made there. -/
theorem Arrives.put_directory {missing : Bool}
    (arrives : disk.Arrives ⟨false, missing⟩ links place path result)
    (absent : disk.entry? result = none) (ending : PathEnd) :
    (disk.put result .directory).Arrives ending links place path result := by
  induction arrives with
  | here => exact .here
  | up below _ ih => exact .up below (ih absent)
  | into nameable entry _ ih =>
      refine .into nameable ?_ (ih absent)
      rwa [entry?_put_of_ne]
      rintro rfl
      cases absent.symm.trans entry
  | atMissing nameable =>
      exact .into nameable (entry?_put_self _ (ne_nil_of_absent absent) _) .here
  | atFile _ entry => cases absent.symm.trans entry
  | atLink _ entry => cases absent.symm.trans entry
  | through nameable entry followed relative _ ih =>
      refine .through nameable ?_ (fun last => nomatch followed last) relative (ih absent)
      rwa [entry?_put_of_ne]
      rintro rfl
      cases absent.symm.trans entry

/-- All directories on the way to a place are there. -/
def Reached (disk : Disk) (place : Place) : Prop :=
  ∀ above, above <+: place → disk.entry? above = some .directory

theorem Reached.top (disk : Disk) : disk.Reached [] := by
  intro above within
  rw [List.prefix_nil.mp within]
  exact entry?_nil disk

theorem Reached.concat (reached : disk.Reached place)
    (there : disk.entry? (place ++ [name]) = some .directory) :
    disk.Reached (place ++ [name]) := by
  intro above within
  rcases List.prefix_concat_iff.mp within with rfl | higher
  · exact there
  · exact reached above higher

/--
A walk that follows its last link and arrives at no directory arrives, on its disk with a file
at the end, at that file.
-/
theorem Arrives.put_file {missing : Bool}
    (arrives : disk.Arrives ⟨true, missing⟩ links place path result)
    (reached : disk.Reached place) (other : disk.entry? result ≠ some .directory)
    (content : Bytes) :
    (∀ target, disk.entry? result ≠ some (.link target)) ∧
      (disk.put result (.file content)).Arrives ⟨true, false⟩ links place path result := by
  -- the walk meets directories and links before its end, and the end is neither
  have written {place : Place} (last : disk.entry? place ≠ some .directory) :
      entry? (disk.put place (.file content)) place = some (.file content) := by
    refine entry?_put_self _ ?_ _
    rintro rfl
    exact last (entry?_nil disk)
  have kept {result place : Place} {entry : DiskEntry} (last : disk.entry? result ≠ some entry)
      (there : disk.entry? place = some entry) :
      entry? (disk.put result (.file content)) place = some entry := by
    rwa [entry?_put_of_ne]
    rintro rfl
    exact last there
  induction arrives with
  | here => exact absurd (reached _ List.prefix_rfl) other
  | up below _ ih =>
      have higher := ih (fun above within => reached above (within.trans (List.dropLast_prefix _)))
        other
      exact ⟨higher.1, .up below higher.2⟩
  | into nameable there _ ih =>
      have inside := ih (reached.concat there) other
      exact ⟨inside.1, .into nameable (kept other there) inside.2⟩
  | atMissing nameable absent => exact ⟨by simp [absent], .atFile nameable (written other)⟩
  | atFile nameable there => exact ⟨by simp [there], .atFile nameable (written other)⟩
  | atLink _ _ stays => cases stays
  | through nameable there followed relative _ ih =>
      have onward := ih reached other
      exact ⟨onward.1,
        .through nameable (kept (onward.1 _) there) (fun _ => rfl) relative onward.2⟩

end Typeset.Disk

namespace Typeset

/-- A path that every disk walks along. -/
structure HostPath.Walkable (path : HostPath) : Prop where
  noZero : ¬path.HasZero
  short : Text.Utf8.length path.render.toList ≤ Disk.maxPathLength
  relative : path.anchor = .relative

namespace Disk

variable {disk left right : Disk} {ending : PathEnd} {path : HostPath} {place parent : Place}
  {name : String} {names : List String} {roots : List Place}

/-! ## Walks along whole paths -/

theorem locate_of_walkable (walkable : path.Walkable) :
    disk.locate path ending = disk.follow ending maxLinks [] path.components := by
  rw [locate, if_neg (fun zero => walkable.noZero (List.contains_iff_mem.mp zero)),
    if_neg (Nat.not_lt.mpr walkable.short)]
  simp only [walkable.relative]

theorem walkable_of_locate (found : disk.locate path ending = .ok place) : path.Walkable := by
  simp only [locate] at found
  split at found
  · cases found
  · next noZero =>
      split at found
      · cases found
      · next short =>
          split at found
          · next relative =>
              exact ⟨fun zero => noZero (List.contains_iff_mem.mpr zero), Nat.not_lt.mp short,
                relative⟩
          · cases found

theorem arrives_of_locate (found : disk.locate path ending = .ok place) :
    disk.Arrives ending maxLinks [] path.components place :=
  arrives_of_follow (locate_of_walkable (walkable_of_locate found) ▸ found)

theorem stat_eq_ok_iff {entry : DiskEntry} :
    disk.stat path = .ok (place, entry) ↔
      disk.locate path ⟨true, false⟩ = .ok place ∧ disk.entry? place = some entry := by
  rw [stat]
  cases disk.locate path ⟨true, false⟩ with
  | error fault => simp [Bind.bind, Except.bind]
  | ok found =>
      cases present : disk.entry? found with
      | none =>
          simp only [Bind.bind, Except.bind, present, Except.ok.injEq]
          constructor
          · intro thrown
            cases thrown
          · rintro ⟨rfl, there⟩
            cases present.symm.trans there
      | some kind =>
          simp only [Bind.bind, Except.bind, Pure.pure, Except.pure, present, Except.ok.injEq,
            Prod.mk.injEq]
          constructor
          · rintro ⟨rfl, rfl⟩
            exact ⟨rfl, present⟩
          · rintro ⟨rfl, there⟩
            exact ⟨rfl, Option.some.inj (present.symm.trans there)⟩

/-- A path leads to a directory. -/
structure LeadsTo (disk : Disk) (path : HostPath) (place : Place) : Prop where
  found : disk.locate path ⟨true, false⟩ = .ok place
  there : disk.entry? place = some .directory

theorem isDirectory_eq_true_iff :
    disk.isDirectory path = .ok true ↔ ∃ place, disk.LeadsTo path place := by
  simp only [isDirectory, holdsAt]
  constructor
  · intro holds
    split at holds
    · next place kind looked =>
        rcases stat_eq_ok_iff.mp looked with ⟨found, there⟩
        cases kind with
        | directory => exact ⟨place, found, there⟩
        | file => cases holds
        | link => cases holds
    · next fault _ =>
        split at holds <;> cases holds
  · rintro ⟨place, leads⟩
    simp only [stat_eq_ok_iff.mpr ⟨leads.found, leads.there⟩, DiskEntry.isDirectory]

theorem LeadsTo.leadsAnywhere (leads : disk.LeadsTo path place) :
    disk.leadsAnywhere path = .ok true := by
  simp only [Disk.leadsAnywhere, holdsAt, stat_eq_ok_iff.mpr ⟨leads.found, leads.there⟩]

theorem LeadsTo.beside (leads : left.LeadsTo path place) (alike : AlikeBeside roots left right)
    (absent : ∀ root ∈ roots, left.entry? root = none) :
    right.LeadsTo path place ∧ Beside roots place := by
  have walkable := walkable_of_locate leads.found
  have top : Beside roots [] := by
    intro root member within
    rw [List.prefix_nil.mp within] at member
    exact ne_nil_of_absent (absent [] member) rfl
  rcases (arrives_of_locate leads.found).beside alike absent top (by simp [leads.there]) with
    ⟨arrives, outside⟩
  refine ⟨⟨?_, alike _ outside ▸ leads.there⟩, outside⟩
  rw [locate_of_walkable walkable, follow_of_arrives arrives]

/-- From a directory that a path leads to, longer paths go on like walks that start there. -/
theorem LeadsTo.below (leads : disk.LeadsTo path parent) (walkable : (path.append names).Walkable)
    (more : names ≠ []) :
    ∃ links, ∀ ending,
      disk.locate (path.append names) ending = disk.follow ending links parent names := by
  rcases (arrives_of_locate leads.found).append rfl leads.there with ⟨links, same⟩
  refine ⟨links, fun ending => ?_⟩
  rw [locate_of_walkable walkable]
  exact same ending names more

theorem LeadsTo.locate_missing (leads : disk.LeadsTo path parent)
    (walkable : (path.append [name]).Walkable) (nameable : Nameable name)
    (absent : disk.entry? (parent ++ [name]) = none) (ending : PathEnd) :
    disk.locate (path.append [name]) ending =
      if ending.mayBeMissing then .ok (parent ++ [name]) else .error .notFound := by
  rcases leads.below walkable (List.cons_ne_nil _ _) with ⟨links, same⟩
  rw [same, follow, if_neg nameable.notUp, if_neg (Nat.not_lt.mpr nameable.short)]
  simp only [absent, true_and]

theorem LeadsTo.locate_directory (leads : disk.LeadsTo path parent)
    (walkable : (path.append [name]).Walkable) (nameable : Nameable name)
    (there : disk.entry? (parent ++ [name]) = some .directory) (ending : PathEnd) :
    disk.locate (path.append [name]) ending = .ok (parent ++ [name]) := by
  rcases leads.below walkable (List.cons_ne_nil _ _) with ⟨links, same⟩
  rw [same, follow_into nameable there, follow]

theorem isDirectory_of_missing (missing : disk.locate path ⟨true, false⟩ = .error .notFound) :
    disk.isDirectory path = .ok false := by
  simp only [isDirectory, holdsAt, stat, missing, Bind.bind, Except.bind]
  rfl

theorem isDirectory_empty {names : List String} (walkable : path.Walkable)
    (starts : path.components = name :: names) (nameable : Nameable name) :
    Disk.empty.isDirectory path = .ok false := by
  apply isDirectory_of_missing
  rw [locate_of_walkable walkable, starts, follow_missing nameable _ rfl]
  simp [ entry?, Disk.empty]

theorem Rooted.above_locate (rooted : disk.Rooted) (found : disk.locate path ending = .ok place) :
    disk.entry? place.dropLast = some .directory :=
  (arrives_of_locate found).parent rooted (entry?_nil disk)

/-- Where nothing is yet, a path ends in a name for something in the directory above. -/
theorem LeadsTo.free (leads : disk.LeadsTo path parent)
    (upward : disk.entry? parent.dropLast ≠ none) {missing : Bool}
    (found : disk.locate (path.append [name]) ⟨false, missing⟩ = .ok place)
    (absent : disk.entry? place = none) : place = parent ++ [name] ∧ Nameable name := by
  rcases leads.below (walkable_of_locate found) (List.cons_ne_nil _ _) with ⟨links, same⟩
  cases arrives_of_follow ((same _).symm.trans found) with
  | up _ onward =>
      cases onward
      exact absurd absent upward
  | into _ there onward =>
      cases onward
      cases absent.symm.trans there
  | atMissing nameable => exact ⟨rfl, nameable⟩
  | atFile _ there => cases absent.symm.trans there
  | atLink _ there => cases absent.symm.trans there
  | through _ _ followed => cases followed rfl

end Disk

end Typeset
