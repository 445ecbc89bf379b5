import StrategyHost.Failure

/-!
# Faults of payloads

Why a payload is not of the layout that its reader expects. The layouts that
carry a version admit longer payloads; the order request has one exact length.
-/

namespace StrategyHost.Wire

/-- The layouts that begin with a version. -/
inductive Schema where
  | tick
  | response
  deriving DecidableEq, Repr

namespace Schema

/-- What a payload of this layout is called. -/
def noun : Schema -> String
  | tick => "tick"
  | response => "order response"

end Schema

/-- Why a payload cannot be read. -/
inductive Fault where
  /-- The payload ends before its version does. -/
  | tooShort (schema : Schema) (length : Nat)
  | version (schema : Schema) (found : UInt32)
  /-- The payload of a known version ends before its last field does. -/
  | truncated (schema : Schema) (found : UInt32) (needed length : Nat)
  | requestLength (needed length : Nat)
  | magic (found : UInt32)
  | command (code : UInt32)
  | direction (code : UInt32)
  | offset (code : UInt32)
  | orderType (code : UInt32)
  deriving DecidableEq, Repr

namespace Fault

/-- The wording of a fault. -/
def reason : Fault -> String
  | tooShort schema length =>
    schema.noun ++ " too short: " ++ Text.decimal length ++ " bytes"
  | version schema found =>
    "unsupported " ++ schema.noun ++ " schema version " ++ Text.decimal found.toNat
  | truncated schema found needed length =>
    schema.noun ++ " v" ++ Text.decimal found.toNat ++ " needs " ++ Text.decimal needed
      ++ " bytes, got " ++ Text.decimal length
  | requestLength needed length =>
    "order request must be " ++ Text.decimal needed ++ " bytes, got " ++ Text.decimal length
  | magic found =>
    "bad command magic 0x" ++ String.ofList (Nat.toDigits 16 found.toNat)
  | command code => "unsupported command " ++ Text.decimal code.toNat
  | direction code => "bad direction " ++ Text.decimal code.toNat
  | offset code => "bad offset " ++ Text.decimal code.toNat
  | orderType code => "bad order type " ++ Text.decimal code.toNat

/-- A fault as callers see it. -/
def toFailure (fault : Fault) : Failure :=
  .decode fault.reason

end Fault

end StrategyHost.Wire
