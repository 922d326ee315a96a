import MeshBridge.Address
import MeshBridge.Fault
/-!
Commands whose outcome is not known yet, in a table with a fixed number of slots. A command holds
its slot until its status arrives, the radio refuses it, its sequence number is used again or it is
swept away as too old.
-/

set_option autoImplicit false
set_option relaxedAutoImplicit false

namespace MeshBridge

/-- A command in a slot. -/
structure PendingCommand where
  id : CorrelationId
  /-- The number under which the radio will tell its status, once the radio accepted it. -/
  sequence : Option SequenceNumber
  /-- When the slot was taken, in milliseconds. -/
  created : Nat
  name : String
  deriving DecidableEq, Repr

structure PendingTable where
  slots : List (Option PendingCommand)
  /-- The age in milliseconds at which a command is given up. -/
  timeout : Nat
  deriving DecidableEq, Repr

namespace PendingTable

/-- Whether there can be a table of this capacity: at 40 bytes a slot it has to stay within what a
program can address. -/
def canHold (capacity : Nat) : Bool := 40 * capacity ≤ Int64.maxValue.toInt

def empty (capacity timeout : Nat) : PendingTable := ⟨List.replicate capacity none, timeout⟩

def capacity (t : PendingTable) : Nat := t.slots.length

/-- The commands in the order of their slots. -/
def commands (t : PendingTable) : List PendingCommand := t.slots.filterMap id

def inUse (t : PendingTable) : Nat := t.commands.length

def get? (t : PendingTable) (slot : Nat) : Option PendingCommand := (t.slots[slot]?).join

/-- Takes the lowest free slot. -/
def alloc (t : PendingTable) (id : CorrelationId) (name : String) (now : Nat) :
    Except Fault (PendingTable × Nat) :=
  match t.slots.findIdx? Option.isNone with
  | none => .error (.resourceExhausted ("pending commands (" ++ toString t.capacity ++ " slots)"))
  | some slot => .ok ({ t with slots := t.slots.set slot (some ⟨id, none, now, name⟩) }, slot)

/-- The slot of the command with a sequence number. -/
def find? (t : PendingTable) (seq : SequenceNumber) : Option Nat :=
  t.slots.findIdx? fun
    | some command => command.sequence = some seq
    | none => false

/-- Gives the command in a slot its sequence number, which no other command may have. -/
def bind (t : PendingTable) (slot : Nat) (seq : SequenceNumber) : Except Fault PendingTable :=
  if (t.find? seq).any (· ≠ slot) then
    .error (.alreadyExists ("sequence number " ++ toString seq ++ " already pending"))
  else match t.get? slot with
    | none => .error (.notFound ("pending slot " ++ toString slot))
    | some command =>
      .ok { t with slots := t.slots.set slot (some { command with sequence := some seq }) }

/-- Empties a slot and gives the command that was in it. -/
def free (t : PendingTable) (slot : Nat) : PendingTable × Option PendingCommand :=
  ({ t with slots := t.slots.set slot none }, t.get? slot)

/-- Whether a command is old enough to be given up. One from the future has no age. -/
def isExpired (t : PendingTable) (now : Nat) (command : PendingCommand) : Bool :=
  t.timeout ≤ now - command.created

/-- Empties the slots of all commands that are too old, and gives these in the order of slots. -/
def sweep (t : PendingTable) (now : Nat) : PendingTable × List PendingCommand :=
  ({ t with slots := t.slots.map fun slot ↦ slot.filter fun command ↦ !t.isExpired now command },
    t.commands.filter (t.isExpired now))

end PendingTable

end MeshBridge
