import PictureFrame.Usb

set_option autoImplicit false

namespace PictureFrame

inductive Phase
  | command
  | data
  | status
  deriving DecidableEq, Repr, Inhabited

def Phase.text : Phase → String
  | .command => "command"
  | .data => "data"
  | .status => "status"

inductive Fault
  | selector (text : String)
  | backlight (level : UInt16)
  | pixelData (expected actual : Nat)
  | notFound (name : String) (found : Nat)
  /-- The bus, or a device outside of an exchange, failed. -/
  | usb (cause : Usb.Error)
  | signature (bytes : Vector UInt8 4)
  | parameters (inner : Fault)
  | dimensions (width height : UInt16)
  | transfer (phase : Phase) (cause : Usb.Error)
  | short (phase : Phase) (expected actual : Nat)
  deriving DecidableEq, Repr

inductive Fault.Kind
  | invalidArgument
  | deviceNotFound
  | protocolError
  | transferError
  deriving DecidableEq, Repr

namespace Fault

def hexByte (b : UInt8) : String :=
  let digit (n : Nat) : Char := if n < 10 then Char.ofNat (n + 48) else Char.ofNat (n + 55)
  String.ofList [digit (b.toNat / 16), digit (b.toNat % 16)]

def kind : Fault → Kind
  | .selector _ | .backlight _ | .pixelData _ _ => .invalidArgument
  | .notFound _ _ => .deviceNotFound
  | .usb _ | .signature _ | .parameters _ | .dimensions _ _ => .protocolError
  | .transfer _ _ | .short _ _ _ => .transferError

def message : Fault → String
  | .selector text =>
    "Invalid device '" ++ text ++ "': expected a string like 'usb0' or 'dpf0'"
  | .backlight level => "Invalid backlight level (must be 0-7): " ++ toString level.toNat
  | .pixelData expected actual =>
    "Pixel data size mismatch: expected " ++ toString expected ++ ", got " ++ toString actual
  | .notFound name found =>
    "No matching USB device '" ++ name ++ "' found (" ++ toString found ++
      " AX206 frame(s) present)"
  | .usb cause => "USB error: " ++ cause.message
  | .signature bytes =>
    "Invalid status reply signature: [" ++ ", ".intercalate (bytes.toList.map hexByte) ++ "]"
  | .parameters inner => "Failed to read panel parameters: " ++ inner.message
  | .dimensions width height =>
    "Invalid panel dimensions reported: " ++ toString width.toNat ++ "x" ++ toString height.toNat
  | .transfer phase cause => "Bulk " ++ phase.text ++ " transfer failed: " ++ cause.message
  | .short phase expected actual =>
    "Short bulk " ++ phase.text ++ " transfer: " ++ toString actual ++ " of " ++
      toString expected ++ " bytes"

def sources : Fault → List String
  | .usb cause | .transfer _ cause => [cause.message]
  | .parameters inner => inner.message :: inner.sources
  | _ => []

def chain (f : Fault) : List String := f.message :: f.sources

end Fault

class Screen (σ : Type) where
  blit : Bytes → Rect → StateM σ (Except Fault UInt8)

namespace Screen

structure Recorded (σ : Type) where
  screen : σ
  blits : List (Rect × Bytes) := []

instance {σ : Type} [Screen σ] : Screen (Recorded σ) where
  blit pixels rect := fun r =>
    let (answer, screen) := Screen.blit pixels rect r.screen
    (answer, ⟨screen, r.blits ++ [(rect, pixels)]⟩)

/-- Answers written down in advance. Past the end of the queue every blit succeeds with code zero. -/
structure Script where
  answers : List (Except Fault UInt8) := []

instance : Screen Script where
  blit _ _ := fun s =>
    match s.answers with
    | [] => (.ok 0, s)
    | answer :: rest => (answer, ⟨rest⟩)

end Screen
end PictureFrame
