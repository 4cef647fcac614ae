import PictureFrame.Screen

set_option autoImplicit false

namespace PictureFrame

/-- Inclusive on all four sides; the empty box is neutral for growing. -/
structure DirtyBox where
  minX : UInt16
  maxX : UInt16
  minY : UInt16
  maxY : UInt16
  deriving DecidableEq, Repr, Inhabited

namespace DirtyBox

def empty : DirtyBox := ⟨0xFFFF, 0, 0xFFFF, 0⟩

def isEmpty (b : DirtyBox) : Bool := decide (b.maxX < b.minX ∨ b.maxY < b.minY)

def insert (b : DirtyBox) (x y : UInt16) : DirtyBox :=
  ⟨min b.minX x, max b.maxX x, min b.minY y, max b.maxY y⟩

/-- The same box with exclusive ends. A maximum of 65535 has no exclusive end. -/
def toRect (b : DirtyBox) : Checked (Option Rect) :=
  if b.isEmpty then .ok none
  else do return some ⟨b.minX, b.minY, ← Checked.next16 b.maxX, ← Checked.next16 b.maxY⟩

def Contains (b : DirtyBox) (x y : Nat) : Prop :=
  b.minX.toNat ≤ x ∧ x ≤ b.maxX.toNat ∧ b.minY.toNat ≤ y ∧ y ≤ b.maxY.toNat

instance (b : DirtyBox) (x y : Nat) : Decidable (b.Contains x y) :=
  inferInstanceAs (Decidable (_ ∧ _ ∧ _ ∧ _))

end DirtyBox

/-- The packed pixels of a panel, and the box of those that changed since it was last flushed.
Drawing positions are taken modulo a canvas, which may be larger or smaller than the panel, and one
that lands outside the panel is ignored. -/
structure Display where
  width : UInt16
  height : UInt16
  canvasWidth : UInt16
  canvasHeight : UInt16
  /-- The panel's pixels, two bytes each, with rows of the panel's width. -/
  resident : Bytes
  scratch : Bytes
  dirty : DirtyBox

inductive Flush
  | clean
  | sent (rect : Rect) (code : UInt8)
  | dropped (rect : Rect)
  deriving DecidableEq, Repr

namespace Display

def withCanvas (width height canvasWidth canvasHeight : UInt16) : Display where
  width := width
  height := height
  canvasWidth := max canvasWidth 1
  canvasHeight := max canvasHeight 1
  resident := Array.replicate (width.toNat * height.toNat * 2) 0
  scratch := #[]
  dirty := .empty

def ofSize (width height : UInt16) : Display := withCanvas width height width height

def offset (d : Display) (x y : Nat) : Nat := (y * d.width.toNat + x) * 2

def packedAt (d : Display) (start : Nat) : Checked Packed :=
  match d.resident[start]?, d.resident[start + 1]? with
  | some high, some low => .ok ⟨high, low⟩
  | _, _ => .error .index

def pixel (d : Display) (x y : UInt16) : Checked (Option Packed) :=
  if x < d.width ∧ y < d.height then
    (d.packedAt (d.offset x.toNat y.toNat)).map some
  else .ok none

def markAll (d : Display) : Display :=
  if d.width = 0 ∨ d.height = 0 then d
  else { d with dirty := ⟨0, d.width - 1, 0, d.height - 1⟩ }

/-- Only a value that differs is written and counts as a change. -/
def store (d : Display) (x y : UInt16) (p : Packed) : Checked Display :=
  let start := d.offset x.toNat y.toNat
  (d.packedAt start).map fun old =>
    if old = p then d
    else { d with
      resident := (d.resident.setIfInBounds start p.high).setIfInBounds (start + 1) p.low
      dirty := d.dirty.insert x y }

def setPixel (d : Display) (x y : UInt32) (color : Color) : Checked Display :=
  if d.canvasWidth = 0 ∨ d.canvasHeight = 0 then .error .division
  else
    let column := x % d.canvasWidth.toUInt32
    let row := y % d.canvasHeight.toUInt32
    if column < d.width.toUInt32 ∧ row < d.height.toUInt32 then
      d.store column.toUInt16 row.toUInt16 color.packed
    else .ok d

def row (d : Display) (rect : Rect) (y : Nat) : Checked Bytes :=
  let start := d.offset rect.left.toNat y
  let stop := start + rect.width * 2
  if stop ≤ d.resident.size then .ok (d.resident.extract start stop) else .error .index

def appendRows (d : Display) (rect : Rect) (bytes : Bytes) : Checked Bytes :=
  (List.range' rect.top.toNat rect.height).foldlM (fun done y => return done ++ (← d.row rect y)) bytes

/-- Sends the changed box, if there is any, and empties it whether the screen took it or not. -/
def flush {σ : Type} [Screen σ] (d : Display) (screen : σ) : Checked (Flush × Display × σ) := do
  match ← d.dirty.toRect with
  | none => return (.clean, d, screen)
  | some rect =>
    let payload ← d.appendRows rect (d.scratch.shrink 0)
    let (answer, screen) := Screen.blit payload rect screen
    let flushed := { d with scratch := payload, dirty := .empty }
    match answer with
    | .ok code => return (.sent rect code, flushed, screen)
    | .error _ => return (.dropped rect, flushed, screen)

end Display
end PictureFrame
