/-!
# Levels of log entries

How important an entry is. A level admits the entries that are at least as
important.
-/

namespace StrategyHost.Journal

/-- The level of an entry, the most important first. -/
inductive Level where
  | error
  | warn
  | info
  | debug
  | trace
  deriving DecidableEq, Repr

namespace Level

/-- The number of a level; a greater number admits more. -/
def rank : Level -> Nat
  | error => 1
  | warn => 2
  | info => 3
  | debug => 4
  | trace => 5

/-- The name of a level in log lines. -/
def text : Level -> String
  | error => "ERROR"
  | warn => "WARN"
  | info => "INFO"
  | debug => "DEBUG"
  | trace => "TRACE"

/-- Whether a threshold admits an entry of this level. -/
def admits (threshold level : Level) : Bool :=
  level.rank <= threshold.rank

end Level

end StrategyHost.Journal
