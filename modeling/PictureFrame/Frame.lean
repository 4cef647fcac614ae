import PictureFrame.Exchange

set_option autoImplicit false

namespace PictureFrame

structure Frame (π : Type) where
  pipe : π
  width : UInt16
  height : UInt16

namespace Frame

variable {π : Type} [Usb.Pipe π]

def sizeIn (reply : Bytes) : PanelSize :=
  .ofReply (Vector.ofFn fun i => reply.getD i.val 0)

/-- Asks for the panel's size. A size of zero in either direction is a fault, like a failed query;
with a fault the pipe is handed back. -/
def ofPipe (pipe : π) : Except (Fault × π) (Frame π) :=
  let (outcome, pipe) := Exchange.run Request.parameters.block (.receive (Array.replicate 5 0)) pipe
  match outcome.result with
  | .error fault => .error (.parameters fault, pipe)
  | .ok _ =>
    let size := sizeIn outcome.buffer
    if size.width = 0 ∨ size.height = 0 then .error (.dimensions size.width size.height, pipe)
    else .ok ⟨pipe, size.width, size.height⟩

def exchange (command : CommandBlock) (data : DataPhase) : StateM (Frame π) Exchange.Outcome :=
  fun frame =>
    let (outcome, pipe) := Exchange.run command data frame.pipe
    (outcome, { frame with pipe })

def blit (pixels : Bytes) (rect : Rect) : StateM (Frame π) (Except Fault UInt8) := fun frame =>
  if pixels.size < rect.byteLength then
    (.error (.pixelData rect.byteLength pixels.size), frame)
  else
    let payload := pixels.extract 0 rect.byteLength
    let (outcome, frame) := exchange (Request.blit rect).block (.send payload) frame
    (outcome.result, frame)

def setBacklight (level : UInt16) : StateM (Frame π) (Except Fault UInt8) := fun frame =>
  if Request.maxBrightness < level then (.error (.backlight level), frame)
  else
    let (outcome, frame) := exchange (Request.brightness level).block .none frame
    (outcome.result, frame)

instance : Screen (Frame π) where
  blit := blit

end Frame

structure Selector where
  index : Fin 10
  deriving DecidableEq, Repr

namespace Selector

def ofIndex (index : UInt8) : Except Fault Selector :=
  if h : index.toNat < 10 then .ok ⟨⟨index.toNat, h⟩⟩
  else .error (.selector (toString index.toNat))

def isKind (bytes : List UInt8) : Bool :=
  bytes = "usb".toUTF8.toList ∨ bytes = "dpf".toUTF8.toList

def parse (text : String) : Except Fault Selector :=
  match text.toUTF8.toList with
  | [b0, b1, b2, b3] =>
    if h : isKind [b0, b1, b2] ∧ 48 ≤ b3.toNat ∧ b3.toNat < 58 then
      .ok ⟨⟨b3.toNat - 48, by omega⟩⟩
    else .error (.selector text)
  | _ => .error (.selector text)

def text (s : Selector) : String := "usb" ++ toString s.index.val

end Selector

namespace Locator

open Usb (Bus Handle Attached)

def frameVendor : UInt16 := 0x1908

def frameProduct : UInt16 := 0x0102

def frameInterface : UInt8 := 0

def isFrame (identity : UInt16 × UInt16) : Bool :=
  identity.1 = frameVendor ∧ identity.2 = frameProduct

/-- The place of the frame with `index` frames before it, given that `found` frames and `place`
devices came before the list; otherwise the number of frames. -/
def nthFrom (index : Nat) (place found : Nat) : List (UInt16 × UInt16) → Except Nat Nat
  | [] => .error found
  | identity :: rest =>
    if isFrame identity then
      if found = index then .ok place else nthFrom index (place + 1) (found + 1) rest
    else nthFrom index (place + 1) found rest

def nth (index : Nat) (identities : List (UInt16 × UInt16)) : Except Nat Nat :=
  nthFrom index 0 0 identities

variable {π : Type}

def identities (bus : Bus π) : Except Fault (List (Attached π) × List (UInt16 × UInt16)) × Bus π :=
  let (listed, bus) := bus.enumerate
  (do let devices ← listed.mapError .usb
      let ids ← (devices.mapM Attached.identity).mapError .usb
      return (devices, ids), bus)

def count : StateM (Bus π) (Except Fault Nat) := fun bus =>
  let (found, bus) := identities bus
  (found.map fun (_, ids) => ids.countP isFrame, bus)

def close (frame : Frame (Handle π)) : Except Fault Unit × Bus π :=
  let (released, handle) := frame.pipe.release
  (released.mapError .usb, handle.drop)

/-- Opens the frame that a selector names. The selector is checked before the bus is used, and all
descriptors are read before any device is opened. With a fault the bus is handed back. -/
def openFrame [Usb.Pipe π] (name : String) (bus : Bus π) :
    Except (Fault × Bus π) (Frame (Handle π)) :=
  match Selector.parse name with
  | .error fault => .error (fault, bus)
  | .ok selector =>
    match identities bus with
    | (.error fault, bus) => .error (fault, bus)
    | (.ok (devices, ids), bus) =>
      match nth selector.index ids with
      | .error found => .error (.notFound name found, bus)
      | .ok place =>
        match devices[place]? with
        | none => .error (.notFound name (ids.countP isFrame), bus)
        | some device =>
          match Handle.acquire bus place device frameInterface with
          | .error (cause, bus) => .error (.usb cause, bus)
          | .ok handle =>
            match Frame.ofPipe handle with
            | .error (fault, handle) => .error (fault, handle.drop)
            | .ok frame => .ok frame

/-- The warning that is logged when no frame can be found, opened or claimed. The log is written to
standard output. -/
def warning (name : String) (bus : Bus π) : Option String := do
  let selector ← (Selector.parse name).toOption
  let devices ← bus.enumerate.1.toOption
  match devices.mapM Attached.identity with
  | .error cause => return "Failed to get device descriptor: " ++ cause.message
  | .ok ids =>
    match nth selector.index ids with
    | .error _ => return "No matching USB device '" ++ name ++ "' found"
    | .ok place =>
      let device ← devices[place]?
      match device.openError, device.claimError with
      | some cause, _ => return "Failed to open usb device '" ++ name ++ "': " ++ cause.message
      | none, some cause =>
        return "Failed to claim interface " ++ toString frameInterface.toNat ++ ": " ++
          cause.message
      | none, none => none

end Locator
end PictureFrame
