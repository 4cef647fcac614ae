import PictureFrame.Files
import PictureFrame.Toml.Document

set_option autoImplicit false

namespace PictureFrame

structure CanvasSize where
  width : Option UInt16 := none
  height : Option UInt16 := none
  deriving DecidableEq, Repr

namespace CanvasSize

def resolve (c : CanvasSize) (panel : UInt16 × UInt16) : UInt16 × UInt16 :=
  (c.width.getD panel.1, c.height.getD panel.2)

end CanvasSize

structure Settings where
  device : String := "usb0"
  backlight : Option UInt16 := none
  /-- Milliseconds between two looks at a watched file. -/
  watchInterval : UInt64 := 500
  canvas : CanvasSize := {}
  deriving DecidableEq, Repr

inductive SettingsError
  | unreadable (cause : FileError)
  | malformed
  | zeroInterval
  deriving DecidableEq, Repr

namespace SettingsError

def message : SettingsError → String
  | .unreadable _ => "Failed to read configuration file"
  | .malformed => "Failed to parse configuration"
  | .zeroInterval => "watch_interval_ms must be greater than 0"

def chain (e : SettingsError) : List String :=
  match e with
  | .unreadable cause => [e.message, cause.message]
  | _ => [e.message]

end SettingsError

namespace Settings

open Toml (Value Entries)

def text? : Value → Option String
  | .text s => some s
  | _ => none

def count? (limit : Nat) : Value → Option Nat
  | .integer n => if 0 ≤ n ∧ n ≤ limit then some n.toNat else none
  | _ => none

def word16? (v : Value) : Option UInt16 := (count? 65535 v).map UInt16.ofNat

def optional {α : Type} (read : Value → Option α) (key : String) (entries : Entries) :
    Option (Option α) :=
  match entries.lookup key with
  | none => some none
  | some v => (read v).map some

def canvasOfEntries (entries : Entries) : Option CanvasSize := do
  return ⟨← optional word16? "width" entries, ← optional word16? "height" entries⟩

/-- A canvas is a table, or an array of width and height of which the end may be missing and any
further item is ignored. A date or time counts as a table without either key. -/
def canvas? : Value → Option CanvasSize
  | .table _ entries => canvasOfEntries entries
  | .moment => some {}
  | .array [] => some {}
  | .array [w] => do return ⟨some (← word16? w), none⟩
  | .array (w :: h :: _) => do return ⟨some (← word16? w), some (← word16? h)⟩
  | _ => none

def ofEntries (entries : Entries) : Option Settings := do
  let device ← optional text? "device" entries
  let backlight ← optional word16? "backlight" entries
  let interval ← optional (count? 0xFFFFFFFFFFFFFFFF) "watch_interval_ms" entries
  let canvas ← optional canvas? "canvas" entries
  let standard : Settings := {}
  return {
    device := device.getD standard.device
    backlight := backlight
    watchInterval := (interval.map UInt64.ofNat).getD standard.watchInterval
    canvas := canvas.getD {} }

/-- Of the values only the interval is checked: it may not be zero. -/
def ofText (text : List Char) : Except SettingsError Settings :=
  match (Toml.document? text).bind ofEntries with
  | none => .error .malformed
  | some settings => if settings.watchInterval = 0 then .error .zeroInterval else .ok settings

def load (files : Files) (path : String) : Except SettingsError Settings :=
  match files.text path with
  | .error cause => .error (.unreadable cause)
  | .ok text => ofText text.toList

end Settings
end PictureFrame
