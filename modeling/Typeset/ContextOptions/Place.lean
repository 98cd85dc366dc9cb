import Typeset.ContextOptions.Basic

/-!
# Places of options

The options and what they hold form a tree. A path leads from the options to a place
in it, or with dots in front from a container around the place where it is written:
one dot stands for the innermost container and each further dot for the next one. Its
steps are names behind dots or in brackets; in a list they are positions.
-/

namespace Typeset.ContextOptions

/-- What is asked for at a place. -/
inductive Kind where
  | options
  | text
  | texts
  | flag
  | any
  deriving DecidableEq

/-- What is asked for at a part of a container. -/
def Kind.part (kind : Kind) (name : String) : Kind :=
  match kind, name with
  | options, "root" | texts, _ => text
  | options, "font_paths" => texts
  | options, "ignore_system_fonts" => flag
  | _, _ => any

structure Node where
  kind : Kind
  value : Value
  /-- Its positions in the containers around it, in the innermost one first. -/
  place : List Nat

/-- A value at a place, with the containers around it, the innermost one first. -/
structure Spot where
  node : Node
  scope : List Node

namespace Spot

def whole (options : Value) : Spot :=
  ⟨⟨.options, options, []⟩, []⟩

def value (spot : Spot) : Value :=
  spot.node.value

/-- A value that stands at a spot instead. -/
def holding (spot : Spot) (kind : Kind) (value : Value) : Spot :=
  { spot with node := { spot.node with kind := kind, value := value } }

def part (spot : Spot) (position : Nat) (name : String) (value : Value) : Spot :=
  ⟨⟨spot.node.kind.part name, value, position :: spot.node.place⟩, spot.node :: spot.scope⟩

/-- The parts of a container with their names, of which the positions of a list have none. -/
def parts (spot : Spot) : List (Value × Spot) :=
  match spot.value with
  | .array _ items =>
      items.zipIdx.map fun (item, position) => (.nothing, spot.part position "" item)
  | .mapping entries =>
      entries.zipIdx.map fun ((key, item), position) =>
        (key, spot.part position (key.text?.getD "") item)
  | _ => []

/-- Whether one of the containers around a spot stands at the place of another spot. -/
def isWithin (spot other : Spot) : Bool :=
  isCollection other.value && spot.scope.any (·.place == other.node.place)

end Spot

/-! ## Paths -/

/-- The steps of a path behind its first one; there are fewer than its characters. -/
def laterSteps : Nat → List Char → List String
  | _, [] => []
  | 0, _ => []
  | fuel + 1, '.' :: rest =>
      let name := rest.takeWhile fun char => char ≠ '.' && char ≠ '['
      String.ofList name :: laterSteps fuel (rest.drop name.length)
  | fuel + 1, '[' :: rest =>
      let name := rest.takeWhile fun char => char ≠ ']' && char ≠ '\n'
      match rest.drop name.length with
      | ']' :: behind => String.ofList name :: laterSteps fuel behind
      | _ => laterSteps fuel rest
  | fuel + 1, _ :: rest => laterSteps fuel rest

/-- The steps of a path without dots in front. -/
def steps (path : List Char) : List String :=
  let name := path.takeWhile fun char => char ≠ '.' && char ≠ '['
  let rest := path.drop name.length
  let later := laterSteps rest.length rest
  if name = [] then later else String.ofList name :: later

/-- Where a path starts, by the dots in front of it; `none` above all options. -/
def Spot.start? (spot : Spot) (dots : Nat) : Option Spot :=
  let scope := match dots with
    | 0 => spot.scope.getLast?.toList
    | dots + 1 => spot.scope.drop dots
  match scope with
  | node :: outer => some ⟨node, outer⟩
  | [] => none

/-- What keeps a path from leading to a spot. -/
inductive Obstacle where
  /-- It starts above all options. -/
  | aboveAll
  /-- A container has no such part. -/
  | absent
  /-- A value that has no parts is asked for one. -/
  | noParts
  /-- A value on the way was left open. -/
  | leftOpen
  deriving DecidableEq

/-- The part of a container to which a step leads; a list only has positions. -/
def Spot.step (spot : Spot) (name : String) : Except Reference.Fault (Except Obstacle Spot) :=
  let found : Option Spot → Except Obstacle Spot
    | some part => .ok part
    | none => .error .absent
  match spot.value with
  | .array .. =>
      match Number.integer? name with
      | some position =>
          .ok (found (if position < 0 then none else (spot.parts[position.toNat]?).map (·.2)))
      | none => .error .unanswered
  | .mapping _ =>
      .ok (found ((spot.parts.find? fun part => part.1.same (.text name)).map (·.2)))
  | _ => .ok (.error .noParts)

/-- The spot to which steps lead; what stands there and on the way is settled. -/
def Spot.walk (settle : Spot → Except Reference.Fault Spot) (strict : Bool) (spot : Spot) :
    List String → Except Reference.Fault (Except Obstacle Spot)
  | [] => .ok (.ok spot)
  | name :: names => do
      match ← spot.step name with
      | .error obstacle => return .error obstacle
      | .ok part =>
          if strict && isOpen part.value then return .error .leftOpen
          else walk settle strict (← settle part) names

/-- The spot to which a path leads from a spot. A strict path does not lead to what is left open. -/
def Spot.follow (settle : Spot → Except Reference.Fault Spot) (strict : Bool) (spot : Spot)
    (path : String) : Except Reference.Fault (Except Obstacle Spot) :=
  let dots := path.toList.takeWhile (· == '.')
  match spot.start? dots.length with
  | some start => start.walk settle strict (steps (path.toList.drop dots.length))
  | none => .ok (.error .aboveAll)

end Typeset.ContextOptions
