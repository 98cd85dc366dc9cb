import Typeset.World

/-!
# Readings

A compiler reads from the world and does nothing else to it. A reading is such a
computation: it ends with a result, or asks one question and goes on with the
answer. Whatever holds of every reading holds of every compiler.
-/

namespace Typeset

/-- A computation that only asks the world. -/
inductive Reading (α : Type) where
  | done (result : α)
  | library (next : Library → Reading α)
  | book (next : FontBook → Reading α)
  | font (index : Int) (next : Option Font → Reading α)
  | today (request : DayRequest) (next : Except Fault (Option Date) → Reading α)
  | source (id : FileId) (next : Outcome Source → Reading α)
  | file (id : FileId) (next : Outcome Bytes → Reading α)

namespace Reading

/-- Go on with the result of a reading. -/
def andThen {α β : Type} (reading : Reading α) (follow : α → Reading β) : Reading β :=
  match reading with
  | .done result => follow result
  | .library next => .library fun answer => (next answer).andThen follow
  | .book next => .book fun answer => (next answer).andThen follow
  | .font index next => .font index fun answer => (next answer).andThen follow
  | .today request next => .today request fun answer => (next answer).andThen follow
  | .source id next => .source id fun answer => (next answer).andThen follow
  | .file id next => .file id fun answer => (next answer).andThen follow

instance : Monad Reading where
  pure := .done
  bind := andThen

/-- Answer the questions of a reading from the world. -/
def run {α : Type} : Reading α → StateM World α
  | .done result => pure result
  | .library next => do (next (← get).library).run
  | .book next => do (next (← get).book).run
  | .font index next => do (next (← World.font index)).run
  | .today request next => do (next (← World.today request)).run
  | .source id next => do (next (← World.source id)).run
  | .file id next => do (next (← World.file id)).run

def askLibrary : Reading Library :=
  .library .done

def askToday (request : DayRequest) : Reading (Except Fault (Option Date)) :=
  .today request .done

def askSource (id : FileId) : Reading (Outcome Source) :=
  .source id .done

def askFile (id : FileId) : Reading (Outcome Bytes) :=
  .file id .done

end Reading

end Typeset
