import Typeset.Cell
import Typeset.Source

/-!
# The file cache

The cache has a slot for every file that was ever asked for, with one cell for
its source and one for its bytes. Starting a new generation drops nothing: it
only makes the next access of every cell read again.
-/

namespace Typeset

structure FileSlot where
  source : Cell Source
  bytes : Cell Bytes

namespace FileSlot

/-- A slot of a file that was never read. -/
def empty : FileSlot :=
  ⟨.empty, .empty⟩

/-- What is said of bytes that are no text. -/
def invalidText (id : Option FileId) : FileError :=
  match id with
  | none => .ofMessage .invalidUtf8 "file is not valid utf-8"
  | some id => .ofMessage .invalidUtf8 s!"file is not valid utf-8 ({id.render})"

/-- The text of source bytes, without a leading byte-order mark. -/
def readText (bytes : Bytes) (id : Option FileId) : Except FileError String :=
  match Text.Utf8.decodeSource? bytes with
  | some chars => .ok (String.ofList chars)
  | none => .error (invalidText id)

/-- The source of new bytes: the previous source is edited when there is one. -/
def parse (id : FileId) (bytes : Bytes) (previous : Option Source) : Outcome Source :=
  match readText bytes (some id), previous with
  | .error error, _ => .failed error
  | .ok text, some source => .value (source.replace text).1
  | .ok text, none => .value (.ofText id text)

/-- Bytes are answered as they were read. -/
def keep (bytes : Bytes) (_previous : Option Bytes) : Outcome Bytes :=
  .value bytes

end FileSlot

/-- The slots of all files that were asked for, and the current generation. -/
structure FileCache where
  slots : List (FileId × FileSlot)
  generation : Nat

namespace FileCache

def empty : FileCache :=
  ⟨[], 0⟩

/-- The number of files that were asked for. -/
def size (cache : FileCache) : Nat :=
  cache.slots.length

def contains (cache : FileCache) (id : FileId) : Bool :=
  cache.slots.any (·.1 == id)

/-- The slot of a file, empty when it was never asked for. -/
def slot (cache : FileCache) (id : FileId) : FileSlot :=
  match cache.slots.find? (·.1 == id) with
  | some (_, slot) => slot
  | none => .empty

/-- Put a slot in the place of a file's slot, or behind all others. -/
def putIn (id : FileId) (slot : FileSlot) : List (FileId × FileSlot) → List (FileId × FileSlot)
  | [] => [(id, slot)]
  | entry :: entries =>
      if entry.1 = id then (id, slot) :: entries else entry :: putIn id slot entries

def put (cache : FileCache) (id : FileId) (slot : FileSlot) : FileCache :=
  { cache with slots := putIn id slot cache.slots }

/-- Start a new generation. -/
def reset (cache : FileCache) : FileCache :=
  { cache with generation := cache.generation + 1 }

/-- What an access of the cache gives and leaves behind. -/
structure Access (α : Type) where
  outcome : Outcome α
  cache : FileCache
  event : Cell.Event α

def source {σ : Type} (cache : FileCache) (id : FileId) (read : StateM σ (Outcome Bytes)) :
    StateM σ (Access Source) := do
  let slot := cache.slot id
  let access ← slot.source.access cache.generation read (FileSlot.parse id)
  return ⟨access.outcome, cache.put id { slot with source := access.cell }, access.event⟩

def file {σ : Type} (cache : FileCache) (id : FileId) (read : StateM σ (Outcome Bytes)) :
    StateM σ (Access Bytes) := do
  let slot := cache.slot id
  let access ← slot.bytes.access cache.generation read FileSlot.keep
  return ⟨access.outcome, cache.put id { slot with bytes := access.cell }, access.event⟩

end FileCache

end Typeset
