import Typeset.Proofs.Disk.Lengths
import Typeset.Proofs.Disk.Making

/-!
# What the making of directories adds

Directories are made along a path from the first one that is missing, each in the one
before it. They are empty but for one another, so what lies below the last one is what
lay there before: nothing, if any directory was made at all. A path that climbs up again
is left out here, since it may name a place that is made on the way.
-/

namespace Typeset.Disk

variable {disk middle made : Disk} {ending : PathEnd} {links : Nat}
  {root place parent result : Place} {front names rest : List String} {name last : String}
  {path : HostPath} {entry : DiskEntry}

/-- Where nothing is at the end of a walk, the walk without its last name is one to a directory. -/
theorem Arrives.split_last (arrives : disk.Arrives ⟨false, true⟩ links place names result)
    (split : names = front ++ [last]) (notUp : last ≠ "..") (rooted : disk.Rooted)
    (start : disk.entry? place = some .directory) (absent : disk.entry? result = none) :
    ∃ parent, disk.Arrives ⟨true, false⟩ links place front parent ∧
      disk.entry? parent = some .directory ∧ result = parent ++ [last] := by
  induction arrives generalizing front with
  | here => simp at split
  | up below _ ih =>
      cases front with
      | nil => exact absurd (List.cons.inj split).1.symm notUp
      | cons up front =>
          rcases List.cons.inj split with ⟨rfl, later⟩
          rcases ih later (rooted.dropLast (by simp [start])) absent with
            ⟨parent, onward, there, same⟩
          exact ⟨parent, .up below onward, there, same⟩
  | into nameable entry onward ih =>
      cases front with
      | nil =>
          rcases List.cons.inj split with ⟨rfl, rfl⟩
          cases onward
          cases absent.symm.trans entry
      | cons name front =>
          rcases List.cons.inj split with ⟨rfl, later⟩
          rcases ih later entry absent with ⟨parent, onward, there, same⟩
          exact ⟨parent, .into nameable entry onward, there, same⟩
  | @atMissing _ place =>
      cases front with
      | nil =>
          cases split
          exact ⟨place, .here, start, rfl⟩
      | cons name front => simp at split
  | atFile _ entry => cases absent.symm.trans entry
  | atLink _ entry => cases absent.symm.trans entry
  | through nameable entry followed relative _ ih =>
      cases front with
      | nil =>
          rcases List.cons.inj split with ⟨rfl, rfl⟩
          cases followed rfl
      | cons name front =>
          rcases List.cons.inj split with ⟨rfl, rfl⟩
          rcases ih (List.append_assoc _ _ _).symm start absent with ⟨parent, onward, there, same⟩
          exact ⟨parent, .through nameable entry (fun _ => rfl) relative onward, there, same⟩

/-- A walk along plain names in a tree without links goes straight down. -/
theorem Arrives.straight (arrives : disk.Arrives ending links place names result)
    (plain : ".." ∉ names)
    (noLinks : ∀ other target, place <+: other → disk.entry? other ≠ some (.link target)) :
    result = place ++ names := by
  induction arrives with
  | here => simp
  | up => simp at plain
  | @into _ place name _ _ _ _ _ ih =>
      have down := ih (fun up => plain (List.mem_cons_of_mem _ up)) fun other target within =>
        noLinks other target ((List.prefix_append _ _).trans within)
      simpa using down
  | atMissing | atFile | atLink => rfl
  | through _ link => exact absurd link (noLinks _ _ (List.prefix_append _ _))

/-- A walk to something goes into the directory that its first name leads to. -/
theorem Arrives.enter (arrives : disk.Arrives ⟨true, false⟩ links parent (name :: rest) result)
    (notUp : name ≠ "..")
    (kind : ∀ entry, disk.entry? (parent ++ [name]) = some entry → entry = .directory) :
    disk.entry? (parent ++ [name]) = some .directory ∧
      disk.Arrives ⟨true, false⟩ links (parent ++ [name]) rest result := by
  cases arrives with
  | up => exact absurd rfl notUp
  | into _ there onward => exact ⟨there, onward⟩
  | atMissing _ _ allowed => cases allowed
  | atFile _ there => cases kind _ there
  | atLink _ _ stays => cases stays
  | through _ there => cases kind _ there

/-- From a directory, a walk to something goes on into the directory that its next name leads to. -/
theorem LeadsTo.enter (leads : disk.LeadsTo path parent)
    (arrives : disk.Arrives ⟨true, false⟩ maxLinks [] (path.components ++ name :: rest) result)
    (notUp : name ≠ "..")
    (kind : ∀ entry, disk.entry? (parent ++ [name]) = some entry → entry = .directory) :
    disk.entry? (parent ++ [name]) = some .directory ∧
      ∃ links, disk.Arrives ⟨true, false⟩ links (parent ++ [name]) rest result := by
  rcases (arrives_of_locate leads.found).append rfl leads.there with ⟨links, same⟩
  have onward := follow_of_arrives arrives
  rw [same _ _ (List.cons_ne_nil _ _)] at onward
  rcases (arrives_of_follow onward).enter notUp kind with ⟨there, inside⟩
  exact ⟨there, links, inside⟩

/-! ## Chains of directories -/

/-- At a place where nothing was there are directories now, along some names and nowhere else. -/
structure Chain (disk made : Disk) (root : Place) (names : List String) : Prop where
  absent : disk.entry? root = none
  alike : AlikeBeside [root] disk made
  only : ∀ place entry, root <+: place → made.entry? place = some entry →
    entry = .directory ∧ place <+: root ++ names

/-- What directories along a path were added to a disk, if any. -/
inductive AddsAlong (path : HostPath) (disk : Disk) : Disk → Prop
  | nothing : AddsAlong path disk disk
  | chain {made : Disk} {front rest : List String} {name : String} {parent : Place}
      (split : path.components = front ++ name :: rest)
      (leads : disk.LeadsTo ⟨path.anchor, front⟩ parent)
      (chain : Chain disk made (parent ++ [name]) rest) : AddsAlong path disk made

theorem Chain.noLinks (chain : Chain disk made root names) (place : Place) (target : HostPath)
    (within : root <+: place) : made.entry? place ≠ some (.link target) := by
  intro there
  cases (chain.only place _ within there).1

theorem Chain.single (rooted : disk.Rooted) (absent : disk.entry? root = none) :
    Chain disk (disk.put root .directory) root [] where
  absent := absent
  alike place beside := by
    rw [entry?_put_of_ne]
    rintro rfl
    exact beside _ (List.mem_singleton_self _) List.prefix_rfl
  only place entry within there := by
    by_cases here : place = root
    · rw [here, entry?_put_self _ (ne_nil_of_absent absent)] at there
      cases there
      exact ⟨rfl, by simp [here]⟩
    · rw [entry?_put_of_ne _ here, rooted.absent_below absent within] at there
      cases there

theorem Chain.longer (chain : Chain disk made root names) (name : String) :
    Chain disk made root (names ++ [name]) where
  absent := chain.absent
  alike := chain.alike
  only place entry within there := by
    rcases chain.only place entry within there with ⟨kind, along⟩
    exact ⟨kind, along.trans ⟨[name], by simp⟩⟩

theorem Chain.put (chain : Chain disk made root names) (name : String) :
    Chain disk (made.put (root ++ names ++ [name]) .directory) root (names ++ [name]) where
  absent := chain.absent
  alike place beside := by
    rw [chain.alike place beside, entry?_put_of_ne]
    rintro rfl
    exact beside _ (List.mem_singleton_self _) (by simp)
  only place entry within there := by
    by_cases here : place = root ++ names ++ [name]
    · rw [here, entry?_put_self _ (by simp)] at there
      cases there
      exact ⟨rfl, by simp [here]⟩
    · rw [entry?_put_of_ne _ here] at there
      exact (chain.longer name).only place entry within there

/-- From the directory that holds a chain, a walk goes along the chain. -/
theorem Chain.enter (chain : Chain disk made (parent ++ [name]) names)
    (leads : disk.LeadsTo path parent) (plain : ".." ∉ name :: rest)
    (arrives : made.Arrives ⟨true, false⟩ maxLinks [] (path.components ++ name :: rest) result) :
    result = parent ++ name :: rest := by
  have above := (leads.beside chain.alike (by simpa using chain.absent)).1
  rcases above.enter arrives (fun up => plain (by simp [up])) fun entry there =>
    (chain.only _ entry List.prefix_rfl there).1 with ⟨_, _, inside⟩
  have down := inside.straight (fun up => plain (List.mem_cons_of_mem _ up)) chain.noLinks
  simpa using down

/-! ## Making directories along a path -/

/-- A directory that is made lies in one that the rest of its path leads to. -/
theorem leadsTo_above_made (rooted : disk.Rooted) (plain : ".." ∉ path.components)
    (found : disk.locate path ⟨false, true⟩ = .ok place) (absent : disk.entry? place = none) :
    ∃ front last parent, path.components = front ++ [last] ∧
      disk.LeadsTo ⟨path.anchor, front⟩ parent ∧ place = parent ++ [last] := by
  rcases path with ⟨anchor, components⟩
  have arrives := arrives_of_locate found
  rcases components.eq_nil_or_concat with rfl | ⟨front, last, rfl⟩
  · cases arrives
    cases absent
  · rw [List.concat_eq_append] at *
    have notUp : last ≠ ".." := fun up => plain (by simp [up])
    rcases arrives.split_last rfl notUp rooted (entry?_nil disk) absent with
      ⟨parent, above, there, same⟩
    have whole : (HostPath.append ⟨anchor, []⟩ (front ++ [last])).Walkable :=
      walkable_of_locate found
    have start : HostPath.Walkable ⟨anchor, front⟩ := whole.of_append
    refine ⟨front, last, parent, rfl, ⟨?_, there⟩, same⟩
    rw [locate_of_walkable start]
    exact follow_of_arrives above

theorem AddsAlong.single (rooted : disk.Rooted) (plain : ".." ∉ path.components) :
    AddsAlong path disk (disk.ensureDirectory path).1 := by
  simp only [ensureDirectory]
  split
  · next making =>
      rcases makeDirectory_eq_ok_iff.mp making with ⟨place, found, absent, rfl⟩
      rcases leadsTo_above_made rooted plain found absent with
        ⟨front, last, parent, split, leads, rfl⟩
      exact .chain split leads (.single rooted absent)
  · exact .nothing
  · exact .nothing

theorem AddsAlong.of_parent (adds : AddsAlong path.parent disk made) :
    AddsAlong path disk made := by
  cases adds with
  | nothing => exact .nothing
  | @chain _ front rest name parent split leads chain =>
      rcases path.components.eq_nil_or_concat with top | ⟨above, last, whole⟩
      · simp [HostPath.parent, top] at split
      · rw [List.concat_eq_append] at whole
        have start : above = front ++ name :: rest := by
          simpa [HostPath.parent, whole] using split
        exact .chain (by simp [whole, start]) leads (chain.longer last)

/-- One more directory goes to the end of those that were made above it. -/
theorem AddsAlong.step (adds : AddsAlong path.parent disk middle) (rooted : disk.Rooted)
    (still : middle.Rooted) (plain : ".." ∉ path.components) :
    AddsAlong path disk (middle.ensureDirectory path).1 := by
  simp only [ensureDirectory]
  split
  · next making =>
      rcases makeDirectory_eq_ok_iff.mp making with ⟨place, found, absent, rfl⟩
      rcases leadsTo_above_made still plain found absent with
        ⟨above, last, inner, whole, leads, rfl⟩
      have higher : path.parent.components = above := by
        rw [HostPath.parent, whole, List.dropLast_concat]
      cases adds with
      | nothing => exact .chain whole leads (.single rooted absent)
      | @chain _ front rest name parent split start chain =>
          rw [higher] at split
          have arrives := arrives_of_locate leads.found
          dsimp only at arrives
          rw [split] at arrives
          have longer : path.components = front ++ name :: (rest ++ [last]) := by
            simp [whole, split]
          have down : ".." ∉ name :: rest := fun up => plain (by
            rw [whole, split]
            exact List.mem_append_left _ (List.mem_append_right _ up))
          cases chain.enter start down arrives
          refine .chain longer start ?_
          simpa using chain.put last
  · exact adds.of_parent
  · exact adds.of_parent

theorem addsAlong_ensureDirectoriesFrom (rooted : disk.Rooted) (path : HostPath)
    (plain : ".." ∉ path.components) (levels : Nat) :
    AddsAlong path disk (disk.ensureDirectoriesFrom path levels).1 := by
  induction levels generalizing path with
  | zero => exact .single rooted plain
  | succ levels ih =>
      have higher : ".." ∉ path.parent.components := fun up => plain (List.dropLast_subset _ up)
      have adds := ih path.parent higher
      have still := kept_rooted.ensureDirectoriesFrom rooted path.parent levels
      simp only [ensureDirectoriesFrom]
      split
      · split
        · next made =>
            rw [made] at adds still
            exact adds.step rooted still plain
        · exact adds.of_parent
      · exact .single rooted plain

/-- Making directories puts nothing below the last of them. -/
theorem AddsAlong.stat_below (adds : AddsAlong path disk made) (plain : ".." ∉ path.components)
    (notUp : name ≠ "..") (found : Place × DiskEntry) :
    made.stat (path.append [name]) = .ok found ↔ disk.stat (path.append [name]) = .ok found := by
  cases adds with
  | nothing => rfl
  | @chain _ front rest first parent split leads chain =>
      rcases found with ⟨place, entry⟩
      have whole : (path.append [name]).components = front ++ first :: (rest ++ [name]) := by
        simp [HostPath.append, split]
      have down : ".." ∉ first :: (rest ++ [name]) := by
        intro up
        have member : ".." ∈ path.components ++ [name] := by
          rw [split, List.append_assoc]
          exact List.mem_append_right front up
        rcases List.mem_append.mp member with member | member
        · exact plain member
        · exact notUp (List.mem_singleton.mp member).symm
      have arrives {other : Disk} (there : other.stat (path.append [name]) = .ok (place, entry)) :
          other.Arrives ⟨true, false⟩ maxLinks [] (front ++ first :: (rest ++ [name])) place ∧
            other.entry? place = some entry := by
        rcases stat_eq_ok_iff.mp there with ⟨located, present⟩
        exact ⟨whole ▸ arrives_of_locate located, present⟩
      have unfound : made.stat (path.append [name]) ≠ .ok (place, entry) := by
        intro there
        rcases arrives there with ⟨walk, present⟩
        cases chain.enter leads down walk
        have along := (chain.only _ entry (by simp) present).2.length_le
        simp only [List.length_append, List.length_cons, List.length_nil] at along
        omega
      have nowhere : disk.stat (path.append [name]) ≠ .ok (place, entry) := by
        intro there
        rcases arrives there with ⟨walk, _⟩
        have up : first ≠ ".." := fun up => down (by simp [up])
        have entered : disk.entry? (parent ++ [first]) = some .directory := by
          refine (leads.enter walk up ?_).1
          intro entry present
          cases chain.absent.symm.trans present
        cases chain.absent.symm.trans entered
      exact ⟨fun there => absurd there unfound, fun there => absurd there nowhere⟩

theorem stat_ensureDirectories_iff (rooted : disk.Rooted) (plain : ".." ∉ path.components)
    (notUp : name ≠ "..") (found : Place × DiskEntry) :
    (disk.ensureDirectories path).1.stat (path.append [name]) = .ok found ↔
      disk.stat (path.append [name]) = .ok found :=
  (addsAlong_ensureDirectoriesFrom rooted path plain _).stat_below plain notUp found

/-! ## A path that leads to a directory already -/

/-- A walk to a directory meets something at its end, be it a link. -/
theorem Arrives.meets (arrives : disk.Arrives ⟨true, false⟩ links place names result)
    (there : disk.entry? result = some .directory) (start : disk.entry? place ≠ none)
    (rooted : disk.Rooted) :
    ∃ met, disk.Arrives ⟨false, true⟩ links place names met ∧ disk.entry? met ≠ none := by
  induction arrives with
  | here => exact ⟨_, .here, start⟩
  | up below _ ih =>
      rcases ih there (by simp [rooted.dropLast start]) with ⟨met, onward, present⟩
      exact ⟨met, .up below onward, present⟩
  | into nameable entry _ ih =>
      rcases ih there (by simp [entry]) with ⟨met, onward, present⟩
      exact ⟨met, .into nameable entry onward, present⟩
  | atMissing _ absent => cases absent.symm.trans there
  | atFile _ entry => cases entry.symm.trans there
  | atLink _ _ stays => cases stays
  | @through _ _ _ rest _ _ nameable entry _ relative _ ih =>
      cases rest with
      | nil => exact ⟨_, .atLink nameable entry rfl, by simp [entry]⟩
      | cons next rest =>
          rcases ih there start with ⟨met, onward, present⟩
          exact ⟨met, .through nameable entry (fun last => nomatch last) relative onward, present⟩

/-- Where a path leads to a directory, none is made. -/
theorem ensureDirectories_of_isDirectory (rooted : disk.Rooted)
    (found : disk.isDirectory path = .ok true) : disk.ensureDirectories path = (disk, none) := by
  rcases isDirectory_eq_true_iff.mp found with ⟨place, leads⟩
  rcases (arrives_of_locate leads.found).meets leads.there (by simp) rooted with
    ⟨met, arrives, present⟩
  have located : disk.locate path ⟨false, true⟩ = .ok met := by
    rw [locate_of_walkable (walkable_of_locate leads.found), follow_of_arrives arrives]
  have refused : disk.makeDirectory path = .error .alreadyExists := by
    simp only [makeDirectory, located, bind, Except.bind]
    split
    · next absent => exact absurd absent present
    · rfl
  have ensured : disk.ensureDirectory path = (disk, none) := by
    simp only [ensureDirectory, refused, found]
  rw [ensureDirectories]
  cases path.components.length with
  | zero => exact ensured
  | succ levels => simp only [ensureDirectoriesFrom, refused, ensured]

/-- Where nothing is missing above, one directory is made. -/
theorem ensureDirectories_of_makeDirectory (making : disk.makeDirectory path = .ok made) :
    disk.ensureDirectories path = (made, none) := by
  have ensured : disk.ensureDirectory path = (made, none) := by
    simp only [ensureDirectory, making]
  rw [ensureDirectories]
  cases path.components.length with
  | zero => exact ensured
  | succ levels => simp only [ensureDirectoriesFrom, making, ensured]

end Typeset.Disk
