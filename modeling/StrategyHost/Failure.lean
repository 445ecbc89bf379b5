import StrategyHost.Text.Integer

/-!
# Failures

What can go wrong while a strategy is hosted. A failure that reaches a caller
is one of these kinds; the modules that detect one have narrower types of
causes and turn them into a kind and its text.
-/

namespace StrategyHost

/-- A failure as callers see it. -/
inductive Failure where
  /-- The configuration, or something it names, cannot be used. -/
  | config (reason : String)
  /-- A row of the contract file is malformed. -/
  | format (line : Nat) (reason : String)
  /-- A row of the contract file repeats a ticker. -/
  | duplicateTicker (ticker : String) (line : Nat)
  /-- The contract table does not have a ticker. -/
  | unknownTicker (ticker : String)
  /-- An order could not be put on the wire. -/
  | orderSkipped (ticker : String) (reason : String)
  /-- The outbound queue has no room. -/
  | queueFull
  /-- Nobody takes commands off the outbound queue any more. -/
  | queueClosed
  /-- The bus could not be reached; trying again may help. -/
  | connection (reason : String)
  /-- A payload does not have the expected layout. -/
  | decode (reason : String)
  /-- The operation has no counterpart on the wire. -/
  | unsupported (operation : String)
  /-- The operating system refused. -/
  | io (reason : String)
  deriving DecidableEq, Repr

namespace Failure

/-- The wording of a failure. -/
def message : Failure -> String
  | config reason => "config error: " ++ reason
  | format line reason => "format error at line " ++ Text.decimal line ++ ": " ++ reason
  | duplicateTicker ticker line =>
    "duplicate ticker '" ++ ticker ++ "' at line " ++ Text.decimal line
  | unknownTicker ticker => "unknown ticker: " ++ ticker
  | orderSkipped ticker reason => "order for '" ++ ticker ++ "' not sent: " ++ reason
  | queueFull => "outbound command queue is full"
  | queueClosed => "outbound command queue is closed"
  | connection reason => "connection error: " ++ reason
  | decode reason => "decode error: " ++ reason
  | unsupported operation => "unsupported operation: " ++ operation
  | io reason => reason

/-- Whether trying the same thing again may succeed. -/
def isTransient : Failure -> Bool
  | connection _ => true
  | _ => false

end Failure

end StrategyHost
