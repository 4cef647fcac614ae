import PictureFrame.Basic

set_option autoImplicit false

namespace PictureFrame.Usb

inductive Error
  | inputOutput
  | invalidParameter
  | access
  | noDevice
  | notFound
  | busy
  | timeout
  | overflow
  | pipe
  | interrupted
  | noMemory
  | notSupported
  | badDescriptor
  | other
  deriving DecidableEq, Repr, Inhabited

def Error.message : Error → String
  | .inputOutput => "Input/Output Error"
  | .invalidParameter => "Invalid parameter"
  | .access => "Access denied (insufficient permissions)"
  | .noDevice => "No such device (it may have been disconnected)"
  | .notFound => "Entity not found"
  | .busy => "Resource busy"
  | .timeout => "Operation timed out"
  | .overflow => "Overflow"
  | .pipe => "Pipe error"
  | .interrupted => "System call interrupted (perhaps due to signal)"
  | .noMemory => "Insufficient memory"
  | .notSupported => "Operation not supported or unimplemented on this platform"
  | .badDescriptor => "Malformed descriptor"
  | .other => "Other error"

def outEndpoint : UInt8 := 0x01

def inEndpoint : UInt8 := 0x81

/-- A pipe is any state that answers bulk writes and reads; timeouts are milliseconds. It is assumed
that a read which fails delivers no byte into its buffer, and that one of `n` bytes fills the first
`n` and leaves the rest. Beyond that nothing is assumed of the answers: a write may report any
count. -/
class Pipe (π : Type) where
  write : (endpoint : UInt8) → (timeout : Nat) → Bytes → StateM π (Except Error Nat)
  read : (endpoint : UInt8) → (timeout : Nat) → (room : Nat) → StateM π (Except Error (Delivery room))

inductive Transfer
  | write (endpoint : UInt8) (timeout : Nat) (bytes : Bytes)
  | read (endpoint : UInt8) (timeout : Nat) (room : Nat)
  deriving DecidableEq, Repr

/-- A device that fails an operation fails it every time. -/
structure Attached (π : Type) where
  vendor : UInt16
  product : UInt16
  descriptorError : Option Error := none
  openError : Option Error := none
  claimError : Option Error := none
  releaseError : Option Error := none
  pipe : π

/-- What was done, whether it succeeded or not. Devices are named by their place on the bus. -/
inductive Event
  | context
  | enumerate
  | opened (device : Nat)
  | claimed (device : Nat) (interface : UInt8)
  | released (device : Nat) (interface : UInt8)
  | closed (device : Nat)
  | bulk (device : Nat) (transfer : Transfer)
  deriving DecidableEq, Repr

structure Bus (π : Type) where
  contextError : Option Error := none
  listError : Option Error := none
  devices : List (Attached π)
  events : List Event := []

def outcome : Option Error → Except Error Unit
  | some cause => .error cause
  | none => .ok ()

def Attached.identity {π : Type} (d : Attached π) : Except Error (UInt16 × UInt16) := do
  outcome d.descriptorError
  return (d.vendor, d.product)

variable {π : Type}

def Bus.record (event : Event) (bus : Bus π) : Bus π := { bus with events := bus.events ++ [event] }

def Bus.enumerate (bus : Bus π) : Except Error (List (Attached π)) × Bus π :=
  let bus := bus.record .context
  match bus.contextError with
  | some cause => (.error cause, bus)
  | none =>
    let bus := bus.record .enumerate
    match bus.listError with
    | some cause => (.error cause, bus)
    | none => (.ok bus.devices, bus)

/-- An opened device carries the bus along, so nothing else can use the bus until it is closed. -/
structure Handle (π : Type) where
  bus : Bus π
  index : Nat
  device : Attached π
  interface : UInt8
  claimed : Bool
  /-- The release has not been asked for yet. -/
  owed : Bool

namespace Handle

def record (event : Event) (h : Handle π) : Handle π := { h with bus := h.bus.record event }

def acquire (bus : Bus π) (index : Nat) (device : Attached π) (interface : UInt8) :
    Except (Error × Bus π) (Handle π) :=
  let bus := bus.record (.opened index)
  match device.openError with
  | some cause => .error (cause, bus)
  | none =>
    let bus := bus.record (.claimed index interface)
    match device.claimError with
    | some cause => .error (cause, bus.record (.closed index))
    | none => .ok ⟨bus, index, device, interface, true, true⟩

def unclaim (h : Handle π) : Except Error Unit × Handle π :=
  let h := h.record (.released h.index h.interface)
  match h.device.releaseError with
  | some cause => (.error cause, h)
  | none => (.ok (), { h with claimed := false })

def release (h : Handle π) : Except Error Unit × Handle π :=
  if h.owed then { h with owed := false }.unclaim else (.ok (), h)

/-- Closing a handle whose interface is still claimed releases it once more. -/
def close (h : Handle π) : Bus π :=
  let h := if h.claimed then h.unclaim.2 else h
  let h := h.record (.closed h.index)
  { h.bus with devices := h.bus.devices.set h.index h.device }

def drop (h : Handle π) : Bus π := h.release.2.close

instance [Pipe π] : Pipe (Handle π) where
  write endpoint timeout bytes := fun h =>
    let (answer, pipe) := Pipe.write endpoint timeout bytes h.device.pipe
    (answer, { h with device.pipe := pipe }.record (.bulk h.index (.write endpoint timeout bytes)))
  read endpoint timeout room := fun h =>
    let (answer, pipe) := Pipe.read endpoint timeout room h.device.pipe
    (answer, { h with device.pipe := pipe }.record (.bulk h.index (.read endpoint timeout room)))

end Handle
end PictureFrame.Usb
