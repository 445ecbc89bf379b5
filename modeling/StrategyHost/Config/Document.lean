import StrategyHost.Config.Basic
import StrategyHost.Json.Shape

/-!
# Configuration documents

Reading a configuration from JSON. The inner records have usual values member
by member, so that giving one of them leaves the others as they are.
-/

namespace StrategyHost.Config

open StrategyHost.Json (Layout Record Value)

namespace Module

/-- The members of the module record. -/
def layout : Layout := ⟨["module_name", "log_path"], 2⟩

/-- Read a module record. -/
def ofJson? (value : Value) : Option Module := do
  let record <- Record.ofValue? layout value
  return {
    name? := ← record.optional "module_name" Value.text?
    logPath? := ← record.optional "log_path" Value.text? }

end Module

namespace BusSettings

/-- The members of the bus record. -/
def layout : Layout := ⟨["url", "md_channel_prefix"], 0⟩

/-- Read a bus record. -/
def ofJson? (value : Value) : Option BusSettings := do
  let record <- Record.ofValue? layout value
  return {
    url := ← record.defaulted "url" usual.url Value.text?
    channelPrefix := ← record.defaulted "md_channel_prefix" usual.channelPrefix Value.text? }

end BusSettings

namespace Reconnect

/-- The members of the reconnect record. -/
def layout : Layout := ⟨["initial_ms", "max_ms", "max_retries"], 0⟩

/-- Read a reconnect record. -/
def ofJson? (value : Value) : Option Reconnect := do
  let record <- Record.ofValue? layout value
  return {
    initial := ← record.defaulted "initial_ms" usual.initial (Value.natural? UInt64.size)
    longest := ← record.defaulted "max_ms" usual.longest (Value.natural? UInt64.size)
    attempts := ← record.defaulted "max_retries" usual.attempts (Value.natural? UInt32.size) }

end Reconnect

/-- The members of a configuration. -/
def layout : Layout :=
  ⟨["module", "strategy_id", "contracts_file", "bus", "outbound_queue_size", "reconnect",
    "cpu_affinity"], 0⟩

/-- Read a configuration. -/
def ofJson? (value : Value) : Option Config := do
  let record <- Record.ofValue? layout value
  return {
    module? := ← record.optional "module" Module.ofJson?
    strategyId := ← record.defaulted "strategy_id" "" Value.text?
    contractsFile := ← record.required "contracts_file" Value.text?
    bus := ← record.defaulted "bus" BusSettings.usual BusSettings.ofJson?
    queueSize :=
      ← record.defaulted "outbound_queue_size" usualQueueSize (Value.natural? UInt64.size)
    reconnect := ← record.defaulted "reconnect" Reconnect.usual Reconnect.ofJson?
    core? := ← record.optional "cpu_affinity" (Value.natural? UInt64.size) }

/-- Read and check a configuration. -/
def parse (document : String) : Reading :=
  match (Json.parse? document).bind ofJson? with
  | none => ⟨.error .malformed, []⟩
  | some config => config.check

/-- Load a configuration from a path. -/
def load (files : FileTree.Reader) (path : String) : Reading :=
  match files path with
  | .error fault => ⟨.error (.unreadable path fault), []⟩
  | .ok content =>
    match Text.Utf8.decode? content with
    | none => ⟨.error (.notText path), []⟩
    | some document => parse document

end StrategyHost.Config
