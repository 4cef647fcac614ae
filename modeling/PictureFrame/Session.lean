import PictureFrame.Display

set_option autoImplicit false

namespace PictureFrame

/-- What a client draws into: four bytes for each pixel, row by row. -/
structure Framebuffer where
  width : UInt32
  height : UInt32
  data : Bytes

namespace Framebuffer

def byteSize (width height : UInt32) : Checked Nat := do
  Checked.allocation (← Checked.mul (← Checked.mul width.toNat height.toNat) 4)

def new (width height : UInt32) : Checked Framebuffer := do
  return ⟨width, height, Array.replicate (← byteSize width height) 0⟩

def index (fb : Framebuffer) (x y : UInt32) : Checked Nat := do
  Checked.mul (← Checked.add (← Checked.mul y.toNat fb.width.toNat) x.toNat) 4

def colorAt (fb : Framebuffer) (start : Nat) : Checked Color :=
  match fb.data[start]?, fb.data[start + 1]?, fb.data[start + 2]?, fb.data[start + 3]? with
  | some r, some g, some b, some a => .ok ⟨r, g, b, a⟩
  | _, _, _, _ => .error .index

def pixel (fb : Framebuffer) (x y : UInt32) : Checked (Option Color) :=
  if x < fb.width ∧ y < fb.height then do
    return some (← fb.colorAt (← fb.index x y))
  else .ok none

def overwrite (data : Bytes) (start : Nat) : List UInt8 → Bytes
  | [] => data
  | b :: rest => overwrite (data.setIfInBounds start b) (start + 1) rest

def write (fb : Framebuffer) (start : Nat) (bytes : List UInt8) : Checked Framebuffer :=
  if start + bytes.length ≤ fb.data.size then .ok { fb with data := overwrite fb.data start bytes }
  else .error .index

def replace (fb : Framebuffer) (bytes : Bytes) : Checked Framebuffer :=
  if bytes.size = fb.data.size then .ok { fb with data := bytes } else .error .index

def setPixel (fb : Framebuffer) (x y : UInt32) (color : Color) : Checked Framebuffer :=
  if x < fb.width ∧ y < fb.height then do
    fb.write (← fb.index x y) color.toBytes.toList
  else .ok fb

def fill (fb : Framebuffer) (color : Color) : Framebuffer :=
  { fb with data := fb.data.mapIdx fun i _ => color.toBytes[i % 4] }

end Framebuffer

structure Session (σ : Type) where
  screen : σ
  display : Display
  framebuffer : Option Framebuffer := none

namespace Session

variable {σ : Type}

/-- The panel may show anything at the start, so the first flush is to paint all of it. -/
def start (screen : σ) (display : Display) : Session σ := ⟨screen, display.markAll, none⟩

def supportsResize (_ : Session σ) : Bool := false

def allocate (s : Session σ) (width height : UInt32) : Checked (Session σ) := do
  let fb ← Framebuffer.new width height
  return { s with framebuffer := some fb }

/-- The end of an interval of `length` from `first`, cut at `limit`. A sum above the largest 32-bit
word counts as that word. -/
def clippedEnd (first length limit : UInt32) : UInt32 :=
  min (UInt32.ofNat (min (first.toNat + length.toNat) 0xFFFFFFFF)) limit

def interval (first stop : UInt32) : List UInt32 :=
  (List.range' first.toNat (stop.toNat - first.toNat)).map UInt32.ofNat

def positions (fb : Framebuffer) (x y width height : UInt32) : List (UInt32 × UInt32) :=
  (interval y (clippedEnd y height fb.height)).flatMap fun row =>
    (interval x (clippedEnd x width fb.width)).map fun column => (column, row)

def copyPixel (fb : Framebuffer) (display : Display) (position : UInt32 × UInt32) : Checked Display := do
  match ← fb.pixel position.1 position.2 with
  | some color => display.setPixel position.1 position.2 color
  | none => return display

def copyRegion (fb : Framebuffer) (display : Display) (x y width height : UInt32) : Checked Display :=
  (positions fb x y width height).foldlM (copyPixel fb) display

def update [Screen σ] (s : Session σ) (x y width height : UInt32) : Checked (Flush × Session σ) :=
  match s with
  | ⟨screen, display, none⟩ => return (.clean, ⟨screen, display, none⟩)
  | ⟨screen, display, some fb⟩ => do
    let display ← copyRegion fb display x y width height
    let (outcome, display, screen) ← display.flush screen
    return (outcome, ⟨screen, display, some fb⟩)

end Session
end PictureFrame
