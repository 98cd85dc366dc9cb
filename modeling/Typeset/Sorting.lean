import Typeset.Number.Digits

/-!
# Sorting

A list is put in ascending order by asking of two elements at a time whether one is before the
other. It is cut into runs that ascend already. A short run is filled up with the elements that
follow it, each inserted where halving leads to, and the runs are merged two at a time. While one
of two runs keeps winning, the merge leaps over several of its elements at once.

The order that is asked about need not be total, and a question may fail: then sorting fails at
the first question that does. So the questions and their order are part of what is computed, and
not only the list that comes of them.
-/

namespace Typeset

namespace Sorting

variable {ε α : Type}

/-! ## Places in a run -/

/-- Whether the element at a place passes a test. Behind the last element there is none to fail. -/
def testAt (run : List α) (test : α → Except ε Bool) (place : Nat) : Except ε Bool :=
  match run[place]? with
  | some item => test item
  | none => return true

/-- The first place from `low` on that passes a test, by halving, or `high` if none before does. -/
def bisect (test : Nat → Except ε Bool) (low high : Nat) : Except ε Nat :=
  if low < high then do
    let middle := low + (high - low) / 2
    if ← test middle then bisect test low middle else bisect test (middle + 1) high
  else return low
termination_by high - low

/-- Steps that double until one passes a test: the last that does not, and the first that does. -/
def widen (test : Nat → Except ε Bool) (limit last step : Nat) : Except ε (Nat × Nat) :=
  if step < limit then do
    if ← test step then return (last, step) else widen test limit step (2 * step + 1)
  else return (last, limit)
termination_by limit - step

/-- The first place of `size` that passes a test, looked for in both directions from a hint. -/
def gallop (test : Nat → Except ε Bool) (size hint : Nat) : Except ε Nat := do
  if ← test hint then
    let (last, step) ← widen (fun step => return !(← test (hint - step))) (hint + 1) 0 1
    bisect test (hint + 1 - step) (hint - last)
  else
    let (last, step) ← widen (fun step => test (hint + step)) (size - hint) 0 1
    bisect test (hint + last + 1) (hint + step)

variable (lt : α → α → Except ε Bool)

/-- Passed by the elements that a key is before. -/
def isAfter (key item : α) : Except ε Bool :=
  lt key item

/-- Passed by the elements that are not before a key. -/
def isNotBefore (key item : α) : Except ε Bool :=
  return !(← lt item key)

/-! ## Runs -/

/-- The elements at the start of a list that go on as the element before them does. -/
def follow (goesOn : α → α → Except ε Bool) (before : α) : List α → Except ε (List α)
  | [] => return []
  | item :: items => do
      if ← goesOn before item then return item :: (← follow goesOn item items) else return []

/-- The first run of a list, ascending: a start that descends strictly is turned around. -/
def firstRun : List α → Except ε (List α)
  | first :: second :: items => do
      if ← lt second first then
        let rest ← follow (fun before item => lt item before) second items
        return (first :: second :: rest).reverse
      else
        return first :: second :: (← follow (isNotBefore lt) second items)
  | items => return items

/-- Insert an element behind those of a run that it is not before. -/
def insert (run : List α) (item : α) : Except ε (List α) := do
  let place ← bisect (testAt run (isAfter lt item)) 0 run.length
  return run.take place ++ item :: run.drop place

/-- The number of elements to which runs are filled up: a sixty-fourth of a list, and more. -/
def leastRun (size : Nat) : Nat :=
  if size < 64 then size
  else
    let part := Number.twoTo (size.log2 - 5)
    if size % part = 0 then size / part else size / part + 1

/-! ## Merging two runs -/

/-- Two runs that are merged from one of their ends. -/
structure Merging (α : Type) where
  /-- What is merged so far. -/
  merged : List α
  /-- What is left of the shorter run. -/
  short : List α
  /-- What is left of the longer run. -/
  long : List α
  /-- How many elements of the shorter run were merged one after the other. -/
  shortWins : Nat
  /-- How many elements of the longer run were merged one after the other. -/
  longWins : Nat
  /-- Whether several elements are merged at once. -/
  leaping : Bool
  /-- How many wins in a row it takes until several elements are merged at once. -/
  patience : Nat

/-- The wins in a row that make leaps worth their questions. -/
def leastWins : Nat := 7

/-- The direction in which two runs are merged. -/
inductive Direction where
  /-- From the front; the shorter run stands in front. -/
  | forward
  /-- From the back; the shorter run stands behind, and both are given from back to front. -/
  | backward

namespace Direction

/-- Whether the first of the longer run is merged ahead of the first of the shorter one. -/
def longFirst : Direction → α → α → Except ε Bool
  | forward, long, short => lt long short
  | backward, long, short => lt short long

/-- How many elements of the shorter run are merged ahead of the first of the longer one. -/
def shortCount (run : List α) (key : α) : Direction → Except ε Nat
  | forward => gallop (testAt run (isAfter lt key)) run.length 0
  | backward => do
      let place ← gallop (testAt run.reverse (isNotBefore lt key)) run.length (run.length - 1)
      return run.length - place

/-- How many elements of the longer run are merged ahead of the first of the shorter one. -/
def longCount (run : List α) (key : α) : Direction → Except ε Nat
  | forward => gallop (testAt run (isNotBefore lt key)) run.length 0
  | backward => do
      let place ← gallop (testAt run.reverse (isAfter lt key)) run.length (run.length - 1)
      return run.length - place

end Direction

namespace Merging

/-- Whether what is left is known to be in order: the longer run, and then the shorter one. -/
def finished (merging : Merging α) : Bool :=
  merging.short.length < 2 || merging.long.isEmpty

def result (merging : Merging α) : List α :=
  merging.merged ++ merging.long ++ merging.short

def takeShort (count : Nat) (merging : Merging α) : Merging α :=
  { merging with
    merged := merging.merged ++ merging.short.take count
    short := merging.short.drop count }

def takeLong (count : Nat) (merging : Merging α) : Merging α :=
  { merging with
    merged := merging.merged ++ merging.long.take count
    long := merging.long.drop count }

/-- Merge one element: the first of the longer run if it is ahead, or else of the shorter one. -/
def compareFirst (direction : Direction) (merging : Merging α) : Except ε (Merging α) :=
  match merging.short, merging.long with
  | short :: _, long :: _ => do
      if ← direction.longFirst lt long short then
        return { merging.takeLong 1 with shortWins := 0, longWins := merging.longWins + 1 }
      else
        return { merging.takeShort 1 with shortWins := merging.shortWins + 1, longWins := 0 }
  | _, _ => return merging

/-- Merge the shorter run up to the first of the longer one, and then that. -/
def leapShort (direction : Direction) (merging : Merging α) : Except ε (Merging α) :=
  match merging.long with
  | [] => return merging
  | key :: _ => do
      let count ← direction.shortCount lt merging.short key
      let leapt := { merging.takeShort count with shortWins := count }
      if leapt.finished then return leapt else return leapt.takeLong 1

/-- Merge the longer run up to the first of the shorter one, and then that. -/
def leapLong (direction : Direction) (merging : Merging α) : Except ε (Merging α) :=
  match merging.short with
  | [] => return merging
  | key :: _ => do
      let count ← direction.longCount lt merging.long key
      let leapt := { merging.takeLong count with longWins := count }
      if leapt.finished then return leapt else return leapt.takeShort 1

/-- A leap in both runs, first in the shorter one from the front, in the longer from the back. -/
def leapBoth (direction : Direction) (merging : Merging α) : Except ε (Merging α) :=
  match direction with
  | .forward => do
      let leapt ← merging.leapShort lt direction
      if leapt.finished then return leapt else leapt.leapLong lt direction
  | .backward => do
      let leapt ← merging.leapLong lt direction
      if leapt.finished then return leapt else leapt.leapShort lt direction

/--
Merge several elements at once. Each such step makes the next turn to them easier, and a step
that is not worth it makes it harder.
-/
def leap (direction : Direction) (merging : Merging α) : Except ε (Merging α) := do
  let leapt ← { merging with patience := max 1 (merging.patience - 1) }.leapBoth lt direction
  if leapt.finished then return leapt
  else if leapt.shortWins < leastWins ∧ leapt.longWins < leastWins then
    let patience := leapt.patience + 1
    return { leapt with shortWins := 0, longWins := 0, leaping := false, patience }
  else return { leapt with leaping := true }

def step (direction : Direction) (merging : Merging α) : Except ε (Merging α) :=
  if merging.finished then return merging
  else if merging.leaping then merging.leap lt direction
  else if merging.patience ≤ max merging.shortWins merging.longWins then
    { merging with patience := merging.patience + 1 }.leap lt direction
  else merging.compareFirst lt direction

/-- A number of steps; each merges an element if there is one to merge. -/
def steps (direction : Direction) : Nat → Merging α → Except ε (Merging α)
  | 0, merging => return merging
  | count + 1, merging => do steps direction count (← merging.step lt direction)

end Merging

/-- Merge two runs, of which the first of the longer one is known to be ahead. -/
def mergeFrom (direction : Direction) (patience : Nat) (short long : List α) :
    Except ε (List α × Nat) := do
  let start := Merging.takeLong 1 ⟨[], short, long, 0, 0, false, patience⟩
  let merging ← start.steps lt direction (short.length + long.length)
  return (merging.result, merging.patience)

/-- Merge two runs of which the second begins ahead of all of the first, and so does its end. -/
def mergeMiddle (patience : Nat) (front back : List α) : Except ε (List α × Nat) :=
  if back.isEmpty then return (front, patience)
  else if front.length ≤ back.length then mergeFrom lt .forward patience front back
  else do
    let (merged, patience) ← mergeFrom lt .backward patience back.reverse front.reverse
    return (merged.reverse, patience)

/--
Merge two neighbouring runs. What is in front of the whole second run stays, and so does what is
behind the whole first run.
-/
def mergeRuns (patience : Nat) (front back : List α) : Except ε (List α × Nat) :=
  match back with
  | [] => return (front, patience)
  | first :: _ => do
      let stays ← gallop (testAt front (isAfter lt first)) front.length 0
      match (front.drop stays).getLast? with
      | none => return (front ++ back, patience)
      | some last => do
          let ends ← gallop (testAt back (isNotBefore lt last)) back.length (back.length - 1)
          let (merged, patience) ← mergeMiddle lt patience (front.drop stays) (back.take ends)
          return (front.take stays ++ merged ++ back.drop ends, patience)

/-! ## Merging all runs -/

/-- A run that waits to be merged, and the level of the boundary in front of it. -/
structure Run (α : Type) where
  items : List α
  level : Nat

/--
The level of the boundary between two neighbouring runs: the number of binary digits that tell
their midpoints apart, as parts of the whole list.
-/
def boundaryLevel (size start front back : Nat) : Nat :=
  let middle := 2 * start + front
  let middle' := middle + front + back
  let differs (digits : Nat) : Bool :=
    Number.twoTo digits * middle / size != Number.twoTo digits * middle' / size
  ((List.range size).find? differs).getD size + 1

/-- Merge the last run with those before it, as long as the boundary between them is deeper. -/
def collapse (level patience : Nat) (last : Run α) :
    List (Run α) → Except ε (Run α × List (Run α) × Nat)
  | [] => return (last, [], patience)
  | before :: runs =>
      if level < last.level then do
        let (items, patience) ← mergeRuns lt patience before.items last.items
        collapse level patience ⟨items, before.level⟩ runs
      else return (last, before :: runs, patience)

/-- Merge the last runs until one is left. A run merges with the shorter one of its neighbours. -/
def mergeAll (patience : Nat) (last : Run α) : List (Run α) → Except ε (List α)
  | [] => return last.items
  | [before] => return (← mergeRuns lt patience before.items last.items).1
  | before :: other :: runs =>
      if other.items.length < last.items.length then do
        let (items, patience) ← mergeRuns lt patience other.items before.items
        mergeAll patience last (⟨items, other.level⟩ :: runs)
      else do
        let (items, patience) ← mergeRuns lt patience before.items last.items
        mergeAll patience ⟨items, before.level⟩ (other :: runs)
termination_by runs => runs.length

/-- The first run of a list, filled up if it is short. -/
def nextRun (least : Nat) (items : List α) : Except ε (List α) := do
  let run ← firstRun lt items
  ((items.drop run.length).take (least - run.length)).foldlM (insert lt) run

/-- The number of elements in some runs. -/
def total (runs : List (Run α)) : Nat :=
  (runs.flatMap Run.items).length

/-- Cut what is left of a list into runs, which are merged with the earlier ones where due. -/
def gather (size patience : Nat) (last : Run α) (runs : List (Run α)) :
    List α → Except ε (List α)
  | [] => mergeAll lt patience last runs
  | item :: items => do
      let run ← nextRun lt (leastRun size) (item :: items)
      let level := boundaryLevel size (total runs) last.items.length run.length
      let (last, runs, patience) ← collapse lt level patience last runs
      gather size patience ⟨run, level⟩ (last :: runs) (items.drop (run.length - 1))
termination_by items => items.length

/-- A list in ascending order, or what the first question that failed did. -/
def sort (items : List α) : Except ε (List α) := do
  let run ← nextRun lt (leastRun items.length) items
  gather lt items.length leastWins ⟨run, 0⟩ [] (items.drop run.length)

end Sorting

end Typeset
