import StrategyHost.Failure

/-!
# The outbound queue

Commands between the strategies that send them and the publisher. The queue is
bounded, and closed once nobody takes commands off it.
-/

namespace StrategyHost.Outbound

/-- An order that is ready for the wire. -/
structure Command where
  userOrderId : UInt32
  ticker : String
  payload : List UInt8
  deriving DecidableEq, Repr

/-- A bounded queue of commands, the oldest first. -/
structure Queue where
  capacity : Nat
  waiting : List Command
  isOpen : Bool
  deriving DecidableEq, Repr

/-- Why a command is not queued. -/
inductive Refusal where
  | full
  | closed
  deriving DecidableEq, Repr

namespace Refusal

/-- A refusal as callers see it. -/
def toFailure : Refusal -> Failure
  | full => .queueFull
  | closed => .queueClosed

end Refusal

/-- Why there can be no queue of a capacity. -/
inductive CapacityFault where
  | zero
  | tooLarge
  deriving DecidableEq, Repr

namespace Queue

/-- The greatest capacity of a queue. -/
def largestCapacity : Nat := 0x1FFFFFFFFFFFFFFF

end Queue

namespace CapacityFault

/-- The wording of a fault. -/
def message : CapacityFault -> String
  | zero => "mpsc bounded channel requires buffer > 0"
  | tooLarge =>
    "a semaphore may not have more than MAX_PERMITS permits (" ++
      Text.decimal Queue.largestCapacity ++ ")"

end CapacityFault

namespace Queue

/-- An open queue without commands. -/
def ofCapacity (capacity : Nat) : Except CapacityFault Queue :=
  if capacity = 0 then .error .zero
  else if largestCapacity < capacity then .error .tooLarge
  else .ok ⟨capacity, [], true⟩

/-- Put a command at the end. -/
def offer (queue : Queue) (command : Command) : Except Refusal Queue :=
  if !queue.isOpen then .error .closed
  else if queue.capacity <= queue.waiting.length then .error .full
  else .ok { queue with waiting := queue.waiting ++ [command] }

/-- Take the oldest command. -/
def take? (queue : Queue) : Option (Command × Queue) :=
  match queue.waiting with
  | [] => none
  | command :: rest => some (command, { queue with waiting := rest })

/-- What whoever takes commands finds. -/
inductive Receipt where
  | command (command : Command)
  | empty
  /-- Commands are no longer taken. -/
  | closed
  deriving DecidableEq, Repr

/-- Take the oldest command, if there is one and commands are still taken. -/
def receive (queue : Queue) : Receipt × Queue :=
  if queue.isOpen then
    match queue.take? with
    | some (command, after) => (.command command, after)
    | none => (.empty, queue)
  else (.closed, queue)

/-- Stop taking commands; those that wait are lost. -/
def close (queue : Queue) : Queue :=
  { queue with waiting := [], isOpen := false }

theorem length_take? {queue after : Queue} {command : Command}
    (taken : queue.take? = some (command, after)) :
    after.waiting.length < queue.waiting.length := by
  unfold take? at taken
  split at taken
  · simp at taken
  · rename_i waiting
    simp only [Option.some.injEq, Prod.mk.injEq] at taken
    simp [← taken.2, waiting]

end Queue

end StrategyHost.Outbound
