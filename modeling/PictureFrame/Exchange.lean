import PictureFrame.Screen

set_option autoImplicit false

/-!
# Exchanges with a frame

A command block of 16 bytes travels in an envelope of 31 bytes, and all envelopes carry one tag. A
command is an exchange of up to three phases: the envelope goes out, data goes out or comes in, and
a status reply comes in. A phase that fails or moves another number of bytes than asked for ends the
exchange. Only the status read is tried again, and a reply with a wrong signature is not.
-/
namespace PictureFrame

section

variable {σ ε α : Type}

def retryFrom (action : Nat → StateM σ (Except ε α)) (attempt : Nat) : Nat → StateM σ (Except ε α)
  | 0 => action attempt
  | more + 1 => fun s =>
    match action attempt s with
    | (.ok value, s) => (.ok value, s)
    | (.error _, s) => retryFrom action (attempt + 1) more s

/-- Tries `action` with the numbers from one up to `attempts`, at least once. The state runs through
all tries, and the last failure is the one reported. -/
def retry (attempts : Nat) (action : Nat → StateM σ (Except ε α)) : StateM σ (Except ε α) :=
  retryFrom action 1 (attempts - 1)

end

abbrev CommandBlock := Vector UInt8 16

inductive Request
  | parameters
  | blit (rect : Rect)
  | brightness (level : UInt16)
  deriving DecidableEq, Repr

namespace Request

def extended (opcode : UInt8) (a b c d : UInt16) : CommandBlock :=
  #v[0xCD, 0, 0, 0, 0, 0x06, opcode,
    low8 a, high8 a, low8 b, high8 b, low8 c, high8 c, low8 d, high8 d, 0]

def blitOpcode : UInt8 := 0x12

def propertyOpcode : UInt8 := 0x01

def brightnessProperty : UInt16 := 0x01

def maxBrightness : UInt16 := 7

def parametersBlock : CommandBlock := #v[0xCD, 0, 0, 0, 0, 0x02, 0, 0, 0, 0, 0, 0, 0, 0, 0, 0]

/-- Words are little-endian, and a blit names the last column and row of its rectangle. -/
def block : Request → CommandBlock
  | .parameters => parametersBlock
  | .blit r => extended blitOpcode r.left r.top (r.right - 1) (r.bottom - 1)
  | .brightness level => extended propertyOpcode brightnessProperty level 0 0

def argument (b : CommandBlock) (i : Fin 4) : UInt16 :=
  word16 b[7 + 2 * i.val] b[8 + 2 * i.val]

def ofBlock? (b : CommandBlock) : Option Request :=
  let candidate : Request :=
    if b[5] = 0x02 then .parameters
    else if b[6] = blitOpcode then
      .blit ⟨argument b 0, argument b 1, argument b 2 + 1, argument b 3 + 1⟩
    else .brightness (argument b 1)
  if candidate.block = b then some candidate else none

end Request

abbrev EnvelopeBytes := Vector UInt8 31

namespace Envelope

def header (length : UInt32) : Vector UInt8 15 :=
  #v[0x55, 0x53, 0x42, 0x43, 0xDE, 0xAD, 0xBE, 0xEF,
    byte32 length 0, byte32 length 1, byte32 length 2, byte32 length 3, 0, 0, 16]

def encode (block : CommandBlock) (length : UInt32) : EnvelopeBytes := header length ++ block

def announced (e : EnvelopeBytes) : UInt32 := word32 e[8] e[9] e[10] e[11]

def carried (e : EnvelopeBytes) : CommandBlock := Vector.ofFn fun i => e[15 + i.val]

def decode? (e : EnvelopeBytes) : Option (Request × UInt32) := do
  let request ← Request.ofBlock? (carried e)
  if encode request.block (announced e) = e then some (request, announced e) else none

end Envelope

structure Status where
  bytes : Vector UInt8 13
  deriving DecidableEq, Repr

namespace Status

def letters : Vector UInt8 4 := #v[0x55, 0x53, 0x42, 0x53]

def signature (s : Status) : Vector UInt8 4 := #v[s.bytes[0], s.bytes[1], s.bytes[2], s.bytes[3]]

def isValid (s : Status) : Bool := s.signature = letters

def code (s : Status) : UInt8 := s.bytes[12]

end Status

structure PanelSize where
  width : UInt16
  height : UInt16
  deriving DecidableEq, Repr

namespace PanelSize

def ofReply (reply : Vector UInt8 5) : PanelSize :=
  ⟨word16 reply[0] reply[1], word16 reply[2] reply[3]⟩

end PanelSize

inductive DataPhase
  | none
  | send (payload : Bytes)
  | receive (buffer : Bytes)
  deriving DecidableEq, Repr

namespace DataPhase

def length : DataPhase → Nat
  | .none => 0
  | .send payload => payload.size
  | .receive buffer => buffer.size

def buffer : DataPhase → Bytes
  | .receive buffer => buffer
  | _ => #[]

end DataPhase

namespace Exchange

def commandTimeout : Nat := 1000
def sendTimeout : Nat := 3000
def receiveTimeout : Nat := 4000
def statusTimeout : Nat := 5000

def statusAttempts : Nat := 5

variable {π : Type} [Usb.Pipe π]

def send (phase : Phase) (timeout : Nat) (bytes : Bytes) : StateM π (Except Fault Unit) :=
  fun pipe =>
    match Usb.Pipe.write Usb.outEndpoint timeout bytes pipe with
    | (.error cause, pipe) => (.error (.transfer phase cause), pipe)
    | (.ok count, pipe) =>
      if count = bytes.size then (.ok (), pipe) else (.error (.short phase bytes.size count), pipe)

def take (phase : Phase) (timeout room : Nat) : StateM π (Except Fault Unit × Delivery room) :=
  fun pipe =>
    match Usb.Pipe.read Usb.inEndpoint timeout room pipe with
    | (.error cause, pipe) => ((.error (.transfer phase cause), .nothing), pipe)
    | (.ok delivery, pipe) =>
      if delivery.size = room then ((.ok (), delivery), pipe)
      else ((.error (.short phase room delivery.size), delivery), pipe)

def receive {n : Nat} (phase : Phase) (timeout : Nat) (buffer : Vector UInt8 n) :
    StateM π (Except Fault Unit × Vector UInt8 n) := fun pipe =>
  let ((taken, delivery), pipe) := take phase timeout n pipe
  ((taken, overlay buffer delivery), pipe)

/-- One try at the status reply. All tries share one buffer. -/
def readStatus : StateM (π × Vector UInt8 13) (Except Fault Unit) := fun (pipe, buffer) =>
  let ((outcome, buffer), pipe) := receive .status statusTimeout buffer pipe
  (outcome, (pipe, buffer))

def status : StateM π (Except Fault UInt8) := fun pipe =>
  match retry statusAttempts (fun _ => readStatus) (pipe, Vector.replicate 13 0) with
  | (.error fault, (pipe, _)) => (.error fault, pipe)
  | (.ok (), (pipe, bytes)) =>
    let reply : Status := ⟨bytes⟩
    if reply.isValid then (.ok reply.code, pipe) else (.error (.signature reply.signature), pipe)

structure Outcome where
  result : Except Fault UInt8
  buffer : Bytes

def transferData : DataPhase → StateM π (Except Fault Unit × Bytes)
  | .none => fun pipe => ((.ok (), #[]), pipe)
  | .send payload => fun pipe =>
    let (sent, pipe) := send .data sendTimeout payload pipe
    ((sent, #[]), pipe)
  | .receive buffer => fun pipe =>
    let ((filled, buffer), pipe) := receive .data receiveTimeout ⟨buffer, rfl⟩ pipe
    ((filled, buffer.toArray), pipe)

/-- The length of the data is announced in 32 bits. -/
def envelope (command : CommandBlock) (data : DataPhase) : EnvelopeBytes :=
  Envelope.encode command (UInt32.ofNat data.length)

/-- An envelope, a data phase and the status phase. The data phase leaves something behind, for which
`before` stands if it is not reached. -/
def around {β : Type} (envelope : EnvelopeBytes) (before : β)
    (transfer : StateM π (Except Fault Unit × β)) : StateM π (Except Fault UInt8 × β) := fun pipe =>
  match send .command commandTimeout envelope.toArray pipe with
  | (.error fault, pipe) => ((.error fault, before), pipe)
  | (.ok (), pipe) =>
    match transfer pipe with
    | ((.error fault, left), pipe) => ((.error fault, left), pipe)
    | ((.ok (), left), pipe) =>
      let (result, pipe) := status pipe
      ((result, left), pipe)

def run (command : CommandBlock) (data : DataPhase) : StateM π Outcome := fun pipe =>
  let ((result, buffer), pipe) := around (envelope command data) data.buffer (transferData data) pipe
  (⟨result, buffer⟩, pipe)

/-- An exchange that takes in `room` bytes, with what has come in and no buffer to put it. -/
def fetch (command : CommandBlock) (room : Nat) : StateM π (Except Fault UInt8 × Delivery room) :=
  around (Envelope.encode command (UInt32.ofNat room)) .nothing (take .data receiveTimeout room)

end Exchange
end PictureFrame
