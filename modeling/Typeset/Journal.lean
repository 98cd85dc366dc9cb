/-!
# The journal

What a session reports while it works, as records in order. Every record has a
level, and a console shows those from some level on.
-/

namespace Typeset

inductive LogLevel where
  | trace
  | debug
  | info
  | success
  | warning
  | error
  deriving DecidableEq

def LogLevel.name : LogLevel → String
  | trace => "TRACE"
  | debug => "DEBUG"
  | info => "INFO"
  | success => "SUCCESS"
  | warning => "WARNING"
  | error => "ERROR"

/-- The place of a level among the others; a higher one is more important. -/
def LogLevel.rank : LogLevel → Nat
  | trace => 0
  | debug => 1
  | info => 2
  | success => 3
  | warning => 4
  | error => 5

structure LogRecord where
  level : LogLevel
  text : String
  deriving DecidableEq

/-- The records of a session, oldest first. -/
abbrev Journal := List LogRecord

namespace LogRecord

/-- A record of the world that documents are compiled in. -/
def world (level : LogLevel) (message : String) : LogRecord :=
  ⟨level, "[world] " ++ message⟩

/-- A record of the session that compiles documents. -/
def session (level : LogLevel) (message : String) : LogRecord :=
  ⟨level, "[session] " ++ message⟩

end LogRecord

/-- The records that a console shows from some level on. -/
def Journal.shownFrom (journal : Journal) (least : LogLevel) : Journal :=
  journal.filter fun record => least.rank ≤ record.level.rank

end Typeset
