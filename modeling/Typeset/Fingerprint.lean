import Typeset.Outcome
import Typeset.Text.Utf8

/-!
# Fingerprints

The fingerprint of a reading is a BLAKE2b hash of sixteen bytes. What is hashed
starts with a tag that tells contents from errors, and an error is hashed by its
kind and its text, so that an unchanged fingerprint means an unchanged reading.
-/

namespace Typeset

namespace Blake2b

def initial : List UInt64 :=
  [0x6A09E667F3BCC908, 0xBB67AE8584CAA73B, 0x3C6EF372FE94F82B, 0xA54FF53A5F1D36F1,
   0x510E527FADE682D1, 0x9B05688C2B3E6C1F, 0x1F83D9ABFB41BD6B, 0x5BE0CD19137E2179]

/-- The order in which the words of a block are mixed in, for each round. -/
def schedule : List (List Nat) :=
  [[0, 1, 2, 3, 4, 5, 6, 7, 8, 9, 10, 11, 12, 13, 14, 15],
   [14, 10, 4, 8, 9, 15, 13, 6, 1, 12, 0, 2, 11, 7, 5, 3],
   [11, 8, 12, 0, 5, 2, 15, 13, 10, 14, 3, 6, 7, 1, 9, 4],
   [7, 9, 3, 1, 13, 12, 11, 14, 2, 6, 5, 10, 4, 0, 15, 8],
   [9, 0, 5, 7, 2, 4, 10, 15, 14, 1, 11, 12, 6, 8, 3, 13],
   [2, 12, 6, 10, 0, 11, 8, 3, 4, 13, 7, 5, 15, 14, 1, 9],
   [12, 5, 1, 15, 14, 13, 4, 10, 0, 7, 6, 3, 9, 2, 8, 11],
   [13, 11, 7, 14, 12, 1, 3, 9, 5, 0, 15, 4, 8, 6, 2, 10],
   [6, 15, 14, 9, 11, 3, 0, 8, 12, 2, 13, 7, 1, 4, 10, 5],
   [10, 2, 8, 4, 7, 6, 1, 5, 15, 11, 9, 14, 3, 12, 13, 0],
   [0, 1, 2, 3, 4, 5, 6, 7, 8, 9, 10, 11, 12, 13, 14, 15],
   [14, 10, 4, 8, 9, 15, 13, 6, 1, 12, 0, 2, 11, 7, 5, 3]]

/-- The columns and then the diagonals of the state, which is a square of sixteen words. -/
def quadruples : List (Nat × Nat × Nat × Nat) :=
  [(0, 4, 8, 12), (1, 5, 9, 13), (2, 6, 10, 14), (3, 7, 11, 15),
   (0, 5, 10, 15), (1, 6, 11, 12), (2, 7, 8, 13), (3, 4, 9, 14)]

def rotate (word : UInt64) (count : UInt64) : UInt64 :=
  (word >>> count) ||| (word <<< (64 - count))

/-- Mix two words of a block into four words of the state. -/
def mix (state : List UInt64) (place : Nat × Nat × Nat × Nat) (x y : UInt64) : List UInt64 :=
  let (i, j, k, l) := place
  let a := state.getD i 0 + state.getD j 0 + x
  let d := rotate (state.getD l 0 ^^^ a) 32
  let c := state.getD k 0 + d
  let b := rotate (state.getD j 0 ^^^ c) 24
  let a := a + b + y
  let d := rotate (d ^^^ a) 16
  let c := c + d
  let b := rotate (b ^^^ c) 63
  (((state.set i a).set j b).set k c).set l d

/-- Mix the words of a block into a quadruple after another, in the order of one round. -/
def mixAll (words state : List UInt64) :
    List (Nat × Nat × Nat × Nat) → List Nat → List UInt64
  | place :: places, first :: second :: order =>
      mixAll words (mix state place (words.getD first 0) (words.getD second 0)) places order
  | _, _ => state

/-- The word that eight bytes spell, the low byte first. -/
def word (bytes : Bytes) : UInt64 :=
  bytes.foldr (fun byte value => value * 256 + byte.toUInt64) 0

/-- Cut a list into so many pieces of one length. -/
def chunks {α : Type} (size : Nat) : Nat → List α → List (List α)
  | 0, _ => []
  | count + 1, items => items.take size :: chunks size count (items.drop size)

/-- Take a block of the message into the chained words, `counter` bytes in all with it. -/
def compress (chained : List UInt64) (block : Bytes) (counter : Nat) (isLast : Bool) :
    List UInt64 :=
  let words := chunks 8 16 (block ++ List.replicate (128 - block.length) 0) |>.map word
  let flags := [UInt64.ofNat counter, UInt64.ofNat (counter >>> 64),
    if isLast then 0xFFFFFFFFFFFFFFFF else 0, 0]
  let start := chained ++ initial.take 4 ++ List.zipWith (· ^^^ ·) (initial.drop 4) flags
  let mixed := schedule.foldl (fun state order => mixAll words state quadruples order) start
  List.zipWith (· ^^^ ·) chained (List.zipWith (· ^^^ ·) (mixed.take 8) (mixed.drop 8))

/-- Take in a list of blocks of which the last is the last of the message. -/
def absorb (chained : List UInt64) (counter : Nat) : List Bytes → List UInt64
  | [] => chained
  | [block] => compress chained block (counter + block.length) true
  | block :: blocks => absorb (compress chained block (counter + 128) false) (counter + 128) blocks

/-- The eight bytes of a word, the low byte first. -/
def wordBytes (word : UInt64) : Bytes :=
  (List.range 8).map fun index => (word >>> (UInt64.ofNat (8 * index))).toUInt8

/-- The hash of a message, of the given number of bytes, without a key. -/
def hash (size : Nat) (message : Bytes) : Bytes :=
  let parameters := 0x01010000 ^^^ UInt64.ofNat size
  let chained := match initial with
    | [] => []
    | first :: rest => (first ^^^ parameters) :: rest
  let blocks := chunks 128 (max 1 ((message.length + 127) / 128)) message
  ((absorb chained 0 blocks).flatMap wordBytes).take size

end Blake2b

def hexText (bytes : Bytes) : String :=
  String.ofList <| bytes.flatMap fun byte => [digit (byte.toNat / 16), digit (byte.toNat % 16)]
where
  /-- The lower-case digit of a value below sixteen. -/
  digit (value : Nat) : Char :=
    if value < 10 then Char.ofNat (0x30 + value) else Char.ofNat (0x61 + (value - 10))

/-- The bytes by which a reading is told from every other. -/
def fingerprintInput : Except FileError Bytes → Bytes
  | .ok content => Text.Utf8.encode "bytes:".toList ++ content
  | .error error => Text.Utf8.encode s!"error:{error.kind.name}:{error.text}".toList

def fingerprint (reading : Except FileError Bytes) : String :=
  hexText (Blake2b.hash 16 (fingerprintInput reading))

end Typeset
