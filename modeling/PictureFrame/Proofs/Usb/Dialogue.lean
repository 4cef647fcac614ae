import PictureFrame.Usb.Script

set_option autoImplicit false

namespace PictureFrame.Usb

inductive Turn
  | wrote (endpoint : UInt8) (timeout : Nat) (bytes : Bytes) (answer : Except Error Nat)
  | read (endpoint : UInt8) (timeout room : Nat) (answer : Except Error (Delivery room))

def Turn.call : Turn → Transfer
  | .wrote endpoint timeout bytes _ => .write endpoint timeout bytes
  | .read endpoint timeout room _ => .read endpoint timeout room

variable {π : Type} [Pipe π]

/-- The first pipe gives these answers to these calls and becomes the second. -/
def Dialogue : π → List Turn → π → Prop
  | p, [], q => q = p
  | p, .wrote endpoint timeout bytes answer :: rest, q =>
    (Pipe.write endpoint timeout bytes p).1 = answer ∧
      Dialogue (Pipe.write endpoint timeout bytes p).2 rest q
  | p, .read endpoint timeout room answer :: rest, q =>
    (Pipe.read endpoint timeout room p).1 = answer ∧
      Dialogue (Pipe.read endpoint timeout room p).2 rest q

theorem dialogue_append {first second : List Turn} {p r : π} : Dialogue p (first ++ second) r ↔
    ∃ q, Dialogue p first q ∧ Dialogue q second r := by
  induction first generalizing p with
  | nil => simp [Dialogue]
  | cons turn first ih => cases turn <;> simp [Dialogue, ih, and_assoc]

def Reaches (p q : π) : Prop := ∃ turns, Dialogue p turns q

theorem Reaches.refl (p : π) : Reaches p p := ⟨[], rfl⟩

theorem Reaches.trans {p q r : π} (first : Reaches p q) (second : Reaches q r) : Reaches p r := by
  obtain ⟨turns, hturns⟩ := first
  obtain ⟨later, hlater⟩ := second
  exact ⟨turns ++ later, dialogue_append.2 ⟨q, hturns, hlater⟩⟩

theorem write_recorded (endpoint : UInt8) (timeout : Nat) (bytes : Bytes) (r : Recorded π) :
    Pipe.write endpoint timeout bytes r = ((Pipe.write endpoint timeout bytes r.pipe).1,
      ⟨(Pipe.write endpoint timeout bytes r.pipe).2,
        r.calls ++ [.write endpoint timeout bytes]⟩) :=
  rfl

theorem read_recorded (endpoint : UInt8) (timeout room : Nat) (r : Recorded π) :
    Pipe.read endpoint timeout room r = ((Pipe.read endpoint timeout room r.pipe).1,
      ⟨(Pipe.read endpoint timeout room r.pipe).2, r.calls ++ [.read endpoint timeout room]⟩) :=
  rfl

theorem dialogue_recorded {turns : List Turn} {r r' : Recorded π} : Dialogue r turns r' ↔
    Dialogue r.pipe turns r'.pipe ∧ r'.calls = r.calls ++ turns.map Turn.call := by
  induction turns generalizing r with
  | nil =>
    obtain ⟨q, calls⟩ := r'
    obtain ⟨p, log⟩ := r
    simp [Dialogue]
  | cons turn turns ih =>
    cases turn with
    | wrote endpoint timeout bytes answer =>
      simp [Dialogue, write_recorded, ih, Turn.call, and_assoc]
    | read endpoint timeout room answer =>
      simp [Dialogue, read_recorded, ih, Turn.call, and_assoc]

end PictureFrame.Usb
