import PictureFrame.Usb

set_option autoImplicit false

namespace PictureFrame.Usb

/-- A pipe together with the calls made to it, so that a statement about the calls of a program is
one about every pipe. -/
structure Recorded (π : Type) where
  pipe : π
  calls : List Transfer := []

instance {π : Type} [Pipe π] : Pipe (Recorded π) where
  write endpoint timeout bytes := fun r =>
    let (answer, pipe) := Pipe.write endpoint timeout bytes r.pipe
    (answer, ⟨pipe, r.calls ++ [.write endpoint timeout bytes]⟩)
  read endpoint timeout room := fun r =>
    let (answer, pipe) := Pipe.read endpoint timeout room r.pipe
    (answer, ⟨pipe, r.calls ++ [.read endpoint timeout room]⟩)

inductive Written
  | all
  | count (n : Nat)
  deriving DecidableEq, Repr

/-- Answers written down in advance. A read past the end of its queue times out; a write past the
end of its queue succeeds. -/
structure Script where
  reads : List (Except Error Bytes) := []
  writes : List (Except Error Written) := []

namespace Script

def write (bytes : Bytes) : StateM Script (Except Error Nat) := fun s =>
  match s.writes with
  | [] => (.ok bytes.size, s)
  | .error cause :: rest => (.error cause, { s with writes := rest })
  | .ok .all :: rest => (.ok bytes.size, { s with writes := rest })
  | .ok (.count n) :: rest => (.ok n, { s with writes := rest })

def read (room : Nat) : StateM Script (Except Error (Delivery room)) := fun s =>
  match s.reads with
  | [] => (.error .timeout, s)
  | .error cause :: rest => (.error cause, { s with reads := rest })
  | .ok bytes :: rest => (.ok (.cut room bytes), { s with reads := rest })

instance : Pipe Script where
  write _ _ := write
  read _ _ := read

end Script
end PictureFrame.Usb
