import Typeset.Reference.Outline

/-!
# Answers of terms

The answer of a term depends on what paths lead to and on what functions give. A
reader knows both. Answers may be more than values, such as values together with the
place where they stand; a reader also tells what they are as a value and as a text.
-/

namespace Typeset.Reference

/-- Why a reference has no answer. -/
inductive Fault where
  /-- It leads to nothing. -/
  | unknownPath
  /-- Its function is unknown. -/
  | unknownFunction
  /-- It leads to what was left open. -/
  | leftOpen
  /-- Its answer is not of the kind that is asked for. -/
  | mismatched
  /-- It leads back to itself, or something on the way to its answer failed. -/
  | unanswered
  /-- Its text has no term. -/
  | malformed
  deriving DecidableEq

/-- What is known of paths, functions and answers. -/
structure Reader (α : Type) where
  lookUp : String → Except Fault α
  call : String → List Value → Except Fault α
  ofValue : Value → α
  value : α → Value
  text : α → String

namespace Term

variable {α : Type}

mutual
def answer (reader : Reader α) : Term → Except Fault α
  | .constant value => .ok (reader.ofValue value)
  | .unreadable => .error .unanswered
  | .path parts => do reader.lookUp (String.join (← names reader parts))
  | .call name arguments => do
      let name := String.join (← names reader name)
      reader.call name (← values reader arguments)
  | .joined parts => do
      return reader.ofValue (.text (String.join (← texts reader parts)))
  | .list items => do return reader.ofValue (.array false (← values reader items))
  | .mapping entries => do return reader.ofValue (.ofEntries (← entryValues reader entries))

/-- The answers of the parts of a path or a name, which have to be texts. -/
def names (reader : Reader α) : List Term → Except Fault (List String)
  | [] => .ok []
  | term :: terms => do
      match reader.value (← answer reader term) with
      | .text text => return text :: (← names reader terms)
      | _ => throw .unanswered

def texts (reader : Reader α) : List Term → Except Fault (List String)
  | [] => .ok []
  | term :: terms => do
      let text := reader.text (← answer reader term)
      return text :: (← texts reader terms)

def values (reader : Reader α) : List Term → Except Fault (List Value)
  | [] => .ok []
  | term :: terms => do
      let value := reader.value (← answer reader term)
      return value :: (← values reader terms)

/-- The answers of the entries of a mapping as values. -/
def entryValues (reader : Reader α) :
    List (Value × Term) → Except Fault (List (Value × Value))
  | [] => .ok []
  | (key, term) :: entries => do
      let value := reader.value (← answer reader term)
      return (key, value) :: (← entryValues reader entries)
end

end Term

end Typeset.Reference
