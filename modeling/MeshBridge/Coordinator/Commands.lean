import MeshBridge.Coordinator.Basic
/-!
Commands to devices and their outcomes. Every attempt that gets as far as a slot uses a fresh
identifier, and every identifier handed out has one outcome, told by an event.
-/

set_option autoImplicit false
set_option relaxedAutoImplicit false

namespace MeshBridge.Coordinator

variable {ρ σ : Type}

/-- Frees the slot of another command that holds a sequence number which the radio gave anew: the
numbers wrapped onto a command that was never answered. -/
def reclaim (pending : PendingTable) (slot : Nat) (seq : SequenceNumber) :
    PendingTable × List Event :=
  match (pending.find? seq).filter (· ≠ slot) with
  | none => (pending, [])
  | some stale =>
    match pending.free stale with
    | (pending, some command) => (pending, [.commandTimeout command.id])
    | (pending, none) => (pending, [])

/-- The address under which a device can be sent to now. -/
def target (c : Coordinator ρ σ) (device : Eui64) : Except Fault NetworkAddress :=
  match c.requireReady with
  | .error f => .error f
  | .ok () =>
    match c.address? device with
    | some address => .ok address
    | none => .error (unknownDevice device)

/-- Hands the radio the frame of a command whose slot was just taken. -/
def transmit [Radio ρ] (c : Coordinator ρ σ) (id : CorrelationId) (slot : Nat) (frame : Frame) :
    Step ρ σ CorrelationId :=
  match Radio.send frame c.radio with
  | (radio, .ok seq) =>
    let (pending, events) := reclaim c.pending slot seq
    match pending.bind slot seq with
    | .ok pending => ⟨{ c with radio, pending }, events, .ok id⟩
    | .error f => ⟨{ c with radio, pending }, [], .error f⟩
  | (radio, .error rejection) =>
    ⟨{ c with radio, pending := (c.pending.free slot).1 }, [.commandFailed id rejection.code],
      .error (.protocolFailure rejection.code)⟩

/-- Sends a request that may be sent to a device in reach. -/
def dispatch [Radio ρ] (c : Coordinator ρ σ) (now : Moment) (device : Eui64) (endpoint : UInt8)
    (request : Request) : Step ρ σ CorrelationId :=
  match c.target device with
  | .error f => c.refuse f
  | .ok address =>
    let id := c.nextId
    let c := { c with nextId := ⟨id.value + 1⟩ }
    match c.pending.alloc id request.name now.ticks with
    | .error f => c.refuse f
    | .ok (pending, slot) => { c with pending }.transmit id slot ⟨address, endpoint, request⟩

/-- Sends a request to an endpoint of a device and gives the identifier of the command. -/
def send [Radio ρ] (c : Coordinator ρ σ) (now : Moment) (device : Eui64) (endpoint : UInt8)
    (request : Request) : Step ρ σ CorrelationId :=
  match request.check with
  | .error f => c.refuse f
  | .ok () => c.dispatch now device endpoint request

/-- The radio told the outcome of a request it had accepted; only status 0 is a success. -/
def status (c : Coordinator ρ σ) (seq : SequenceNumber) (status : UInt16) : Step ρ σ Unit :=
  let unknown : Fault := .notFound ("pending sequence " ++ toString seq)
  match c.pending.find? seq with
  | none => c.refuse unknown
  | some slot =>
    match c.pending.free slot with
    | (pending, some command) =>
      let outcome : Event :=
        if status = 0 then .commandConfirmed command.id else .commandFailed command.id status
      ⟨{ c with pending }, [outcome], .ok ()⟩
    | (_, none) => c.refuse unknown

/-- Gives up the commands that are too old, and counts them. -/
def sweep (c : Coordinator ρ σ) (now : Moment) : Step ρ σ Nat :=
  let (pending, expired) := c.pending.sweep now.ticks
  ⟨{ c with pending }, expired.map fun command ↦ .commandTimeout command.id, .ok expired.length⟩

end MeshBridge.Coordinator
