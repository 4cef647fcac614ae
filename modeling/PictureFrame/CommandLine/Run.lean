import PictureFrame.CommandLine.Arguments
import PictureFrame.Frame
import PictureFrame.Session
import PictureFrame.Settings

set_option autoImplicit false

/-!
# Running a command

A command is a function of the bus and the files. It gives back the bus, with the record of all that
was done to it, the lines of its report and the failure that stopped it, if any. A frame that was
opened is closed again on every way out. Painting a picture and setting the backlight are reported
only after the frame is closed, the size of a panel before.

Log output is left out, and with it what the option for a verbose log changes. Of the log only the
warning about a frame that cannot be had is described, by `Locator.warning`.
-/
namespace PictureFrame.CommandLine

inductive Failure
  | settings (path : String) (cause : SettingsError)
  | color (text : String)
  | census (cause : Fault)
  | opening (device : String) (cause : Fault)
  | backlight (cause : Fault)
  | image (path : String)
  | dropped (rect : Rect)
  | interval
  | closing (cause : Fault)
  | stopped (cause : Abort)
  deriving DecidableEq, Repr

namespace Failure

def chain : Failure → List String
  | .settings path cause => ("Failed to load configuration from " ++ path) :: cause.chain
  | .color text => ["Invalid color: " ++ text ++ ". Use #RRGGBB"]
  | .census cause => "Failed to enumerate USB devices" :: cause.chain
  | .opening device cause => ("Cannot open dpf device " ++ device) :: cause.chain
  | .backlight cause => "Failed to set backlight level" :: cause.chain
  | .image path => ["Failed to open " ++ path]
  | .dropped rect => ["Failed to update " ++ rect.text]
  | .interval => ["Watch interval must be greater than 0"]
  | .closing cause => "Failed to close device" :: cause.chain
  | .stopped cause => [cause.message]

/-- A program that is stopped has an exit status of its own. -/
def status : Failure → Nat
  | .stopped _ => 101
  | _ => 1

end Failure

open Usb (Bus Handle)

variable {π : Type}

/-- How a command ended. The printed lines are those of its report. -/
structure Run (π : Type) where
  bus : Bus π
  printed : List String := []
  failure : Option Failure := none

namespace Run

def fail (bus : Bus π) (failure : Failure) (printed : List String := []) : Run π :=
  ⟨bus, printed, some failure⟩

/-- The end of a command that closes its frame: first the outcome of closing counts, then the lines
and the failure given here. -/
def closing (closed : Except Fault Unit × Bus π) (printed : List String)
    (failure : Option Failure := none) : Run π :=
  match closed with
  | (.error fault, bus) => fail bus (.closing fault)
  | (.ok (), bus) => ⟨bus, printed, failure⟩

end Run

abbrev Picture := Nat → Nat → Bytes

/-- Decoding an image file and scaling what is in it to a width and height. -/
abbrev Decoder := Files → String → Option Picture

def plain (color : Color) : Picture := fun width height =>
  (List.range (width * height)).foldl (fun done _ => done ++ color.toBytes.toArray) #[]

/-- The decoder that the program is built with here: binary pixel maps, scaled to the nearest
pixel. -/
def picture? : Decoder := fun files path => (Image.load? files path).map Image.scaled

section
variable [Usb.Pipe π]

def openFrame (settings : Settings) (bus : Bus π) : Except (Run π) (Frame (Handle π)) :=
  match Locator.openFrame settings.device bus with
  | .error (fault, bus) => .error (.fail bus (.opening settings.device fault))
  | .ok frame =>
    match settings.backlight with
    | none => .ok frame
    | some level =>
      match Frame.setBacklight level frame with
      | (.ok _, frame) => .ok frame
      | (.error fault, frame) => .error (.fail frame.pipe.drop (.backlight fault))

def startSession (settings : Settings) (frame : Frame (Handle π)) :
    Checked (Session (Frame (Handle π))) :=
  let (canvasWidth, canvasHeight) := settings.canvas.resolve (frame.width, frame.height)
  let display := Display.withCanvas frame.width frame.height canvasWidth canvasHeight
  (Session.start frame display).allocate frame.width.toUInt32 frame.height.toUInt32

def push (s : Session (Frame (Handle π))) (picture : Picture) :
    Checked (Flush × Session (Frame (Handle π))) :=
  match s.framebuffer with
  | none => s.update 0 0 0 0
  | some fb => do
    let drawn ← fb.replace (picture fb.width.toNat fb.height.toNat)
    { s with framebuffer := some drawn }.update 0 0 fb.width fb.height

def report : Flush → Except Failure String
  | .clean => .ok "Display already up to date"
  | .sent rect code =>
    .ok ("Updated " ++ rect.text ++ " (device returned " ++ toString code.toNat ++ ")")
  | .dropped rect => .error (.dropped rect)

def finish (painted : Flush × Session (Frame (Handle π))) (more : List String) : Run π :=
  let closed := Locator.close painted.2.screen
  match report painted.1 with
  | .ok line => .closing closed (line :: more)
  | .error failure => .closing closed [] (some failure)

def abandon (frame : Frame (Handle π)) (cause : Abort) : Run π :=
  .fail frame.pipe.drop (.stopped cause)

def withSession (settings : Settings) (bus : Bus π)
    (next : Session (Frame (Handle π)) → Checked (Run π)) : Run π :=
  match openFrame settings bus with
  | .error run => run
  | .ok frame =>
    match startSession settings frame >>= next with
    | .error cause => abandon frame cause
    | .ok run => run

def list (bus : Bus π) : Run π :=
  match Locator.count bus with
  | (.error fault, bus) => .fail bus (.census fault)
  | (.ok count, bus) =>
    { bus, printed := ("AX206 frames found: " ++ toString count) ::
        (List.range (min count 10)).map fun i => "  usb" ++ toString i }

/-- The size is printed before the frame is closed, and stays when closing fails. -/
def info (settings : Settings) (bus : Bus π) : Run π :=
  match openFrame settings bus with
  | .error run => run
  | .ok frame =>
    let lines := ["Frame " ++ settings.device ++ ":",
      "  Width: " ++ toString frame.width.toNat, "  Height: " ++ toString frame.height.toNat]
    match Locator.close frame with
    | (.ok (), bus) => { bus, printed := lines }
    | (.error fault, bus) => .fail bus (.closing fault) lines

def clear (settings : Settings) (text : String) (bus : Bus π) : Run π :=
  match Color.ofHex? text with
  | none => .fail bus (.color text)
  | some color =>
    withSession settings bus fun s => do
      return finish (← push s (plain color)) ["Display cleared to: " ++ text]

def paint (decode : Decoder) (settings : Settings) (files : Files) (path : String) (bus : Bus π) :
    Run π :=
  withSession settings bus fun s =>
    match decode files path with
    | none => .ok (.fail s.screen.pipe.drop (.image path))
    | some picture => do return finish (← push s picture) []

def setBacklight (settings : Settings) (level : UInt16) (bus : Bus π) : Run π :=
  match openFrame settings bus with
  | .error run => run
  | .ok frame =>
    match Frame.setBacklight level frame with
    | (.error fault, frame) => .fail frame.pipe.drop (.backlight fault)
    | (.ok _, frame) =>
      .closing (Locator.close frame) ["Backlight set to: " ++ toString level.toNat]

/-- Handles one frame of a watched file. A file that cannot be read, or a blit that fails, is passed
over. -/
def watchOnce (decode : Decoder) (files : Files) (path : String) (s : Session (Frame (Handle π))) :
    Checked (Session (Frame (Handle π))) :=
  match decode files path with
  | none => .ok s
  | some picture => do return (← push s picture).2

/-- Watches an image file for the given number of looks at it. Between two looks pass that many
milliseconds, at least one. -/
def watch (decode : Decoder) (settings : Settings) (files : Files) (path : String)
    (interval : UInt64) (looks : Nat) (bus : Bus π) : Run π :=
  if interval = 0 then .fail bus .interval
  else
    withSession settings bus fun s => do
      let s ← (List.range looks).foldlM (fun s _ => watchOnce decode files path s) s
      return .closing (Locator.close s.screen) []

def settingsOf (files : Files) (i : Invocation) : Except Failure Settings := do
  let settings ← match i.config with
    | none => .ok {}
    | some path => (Settings.load files path).mapError (.settings path)
  return match i.device with
    | none => settings
    | some device => { settings with device }

/-- Runs an invocation. `looks` is how often `watch` looks at its file before it is interrupted. -/
def run (decode : Decoder) (files : Files) (looks : Nat) (i : Invocation) (bus : Bus π) : Run π :=
  match settingsOf files i with
  | .error failure => .fail bus failure
  | .ok settings =>
    match i.command with
    | .list => list bus
    | .info => info settings bus
    | .clear color => clear settings color bus
    | .paint path => paint decode settings files path bus
    | .backlight level => setBacklight settings level bus
    | .watch path interval =>
      watch decode settings files path (interval.getD settings.watchInterval) looks bus

/-- What the user is told. The lines of the report go to standard output and the errors to standard
error; the log, which goes to standard output too, is not part of it. -/
structure Report where
  status : Nat
  printed : List String := []
  errors : List String := []

def Report.ofRun (r : Run π) : Report where
  status := match r.failure with
    | none => 0
    | some failure => failure.status
  printed := r.printed
  errors := match r.failure with
    | none => []
    | some failure => failure.chain

def versionLine : String := "ax206ctl 0.1.0"

def usage : List String :=
  ["Usage: ax206ctl [-v] [-c FILE] [-d DEVICE] COMMAND", "",
    "  list                            count the frames on the bus",
    "  info                            print the size of the panel",
    "  clear [--color COLOR]           paint the panel in one color",
    "  show IMAGE                      paint an image",
    "  backlight LEVEL                 set the backlight to a level from 0 to 7",
    "  watch IMAGE [--interval MS]     keep painting an image file"]

/-- A command line that is rejected does nothing and has exit status two. -/
def runLineWith (decode : Decoder) (args : List String) (files : Files) (looks : Nat)
    (bus : Bus π) : Report × Bus π :=
  match parse args with
  | none => ({ status := 2 }, bus)
  | some .version => ({ status := 0, printed := [versionLine] }, bus)
  | some .help => ({ status := 0, printed := usage }, bus)
  | some (.run invocation) =>
    let r := run decode files looks invocation bus
    (.ofRun r, r.bus)

def runLine (args : List String) (files : Files) (looks : Nat) (bus : Bus π) : Report × Bus π :=
  runLineWith picture? args files looks bus

end
end PictureFrame.CommandLine
