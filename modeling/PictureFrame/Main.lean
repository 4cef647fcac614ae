import PictureFrame.CommandLine.Run
import PictureFrame.Usb.Script

set_option autoImplicit false

/-!
# The program

Reads the files that the command line names, runs the command and prints what it reports. This build
has no USB driver of its own: the bus it works on has no devices.
-/

open PictureFrame

def PictureFrame.CommandLine.Invocation.paths (i : CommandLine.Invocation) : List String :=
  i.config.toList ++
    match i.command with
    | .paint path | .watch path _ => [path]
    | _ => []

/-- What the system's error says about a file. -/
def PictureFrame.FileError.ofSystem : IO.Error → FileError
  | .inappropriateType _ 21 _ => .isDirectory
  | .inappropriateType .. => .notDirectory
  | .invalidArgument .. => .nameTooLong
  | _ => .missing

def readFile (path : String) : IO (Except FileError Bytes) := do
  try
    return .ok (← IO.FS.readBinFile path).data
  catch cause =>
    return .error (.ofSystem cause)

def main (args : List String) : IO UInt32 := do
  let paths := match CommandLine.parse args with
    | some (.run invocation) => invocation.paths
    | _ => []
  let contents ← paths.mapM fun path => return (path, ← readFile path)
  let files : Files := fun path => (contents.lookup path).getD (.error .missing)
  let bus : Usb.Bus Usb.Script := { devices := [] }
  let report := (CommandLine.runLine args files 1 bus).1
  for line in report.printed do
    IO.println line
  if report.status = 2 then
    for line in CommandLine.usage do
      IO.eprintln line
  match report.errors with
  | [] => pure ()
  | first :: causes =>
    IO.eprintln ("Error: " ++ first)
    for cause in causes do
      IO.eprintln ("    " ++ cause)
  return UInt32.ofNat report.status
