import PictureFrame.Proofs.CommandLine.Clearing
import PictureFrame.Proofs.CommandLine.Sequence

set_option autoImplicit false

namespace PictureFrame.CommandLine

open Usb (Bus Handle Attached Turn)

def sheet (width height : UInt16) (picture : Picture) : Framebuffer :=
  ⟨width.toUInt32, height.toUInt32, picture width.toNat height.toNat⟩

def exposed (settings : Settings) (width height : UInt16) (picture : Picture) : Display :=
  Session.copied (sheet width height picture)
    (Session.positions (sheet width height picture) 0 0 width.toUInt32 height.toUInt32)
    (.withCanvas width height (settings.canvas.resolve (width, height)).1
      (settings.canvas.resolve (width, height)).2)

theorem exposed_wellFormed (settings : Settings) (width height : UInt16) (picture : Picture) :
    (exposed settings width height picture).WellFormed :=
  Session.copied_wellFormed (Display.withCanvas_wellFormed _ _ _ _) _ _

theorem exposed_fits (settings : Settings) (width height : UInt16) (picture : Picture) :
    (exposed settings width height picture).resident.size =
      (⟨0, 0, width, height⟩ : Rect).byteLength := by
  have hsize := (Session.tracks_copied (Display.withCanvas_wellFormed width height
    (settings.canvas.resolve (width, height)).1 (settings.canvas.resolve (width, height)).2)
      (sheet width height picture)
      (Session.positions (sheet width height picture) 0 0 width.toUInt32 height.toUInt32)).size
  rw [(exposed_wellFormed settings width height picture).resident_size, exposed, hsize.1, hsize.2]
  rfl

def exposure (settings : Settings) (width height : UInt16) (picture : Picture) : Task :=
  .blit ⟨0, 0, width, height⟩ (exposed settings width height picture).resident
    (exposed_fits settings width height picture)

variable {π : Type} {settings : Settings} {frame : Frame (Handle π)}
variable {fb : Framebuffer} {s : Session (Frame (Handle π))} {picture : Picture}

theorem Fresh.drawn_eq (h : Fresh settings frame fb s) :
    drawn fb picture = sheet frame.width frame.height picture := by
  rw [drawn, sheet, h.width, h.height, UInt16.toNat_toUInt32, UInt16.toNat_toUInt32]

theorem Fresh.picture_eq (h : Fresh settings frame fb s) :
    (firstShown settings frame (drawn fb picture)).picture (panel frame) =
      (exposed settings frame.width frame.height picture).resident := by
  have hsame : Display.SamePixels (exposed settings frame.width frame.height picture)
      (firstShown settings frame (drawn fb picture)) := by
    rw [h.drawn_eq]
    exact Session.copied_samePixels (Display.samePixels_markAll _) _ _
  have hsize := (Session.tracks_copied (blank_wellFormed settings frame) (drawn fb picture)
    (Session.positions (drawn fb picture) 0 0 fb.width fb.height)).size
  have hmarked := (blank settings frame).markAll_size
  have hwidth : (firstShown settings frame (drawn fb picture)).width = frame.width :=
    hsize.1.trans hmarked.1
  have hheight : (firstShown settings frame (drawn fb picture)).height = frame.height :=
    hsize.2.trans hmarked.2
  rw [← hsame.resident, panel, ← hwidth, ← hheight]
  exact (firstShown_wellFormed settings frame _).picture_whole

variable [Usb.Pipe π]

theorem Fresh.push_exposed (h : Fresh settings frame fb s) (hwidth : 1 ≤ frame.width)
    (hheight : 1 ≤ frame.height) (hfills : picture.Fills) :
    ∃ s', push s picture = .ok (.ofAnswer (panel frame)
        (Frame.blit (exposed settings frame.width frame.height picture).resident (panel frame)
          frame).1, s') ∧
      s'.screen = (Frame.blit (exposed settings frame.width frame.height picture).resident
        (panel frame) frame).2 := by
  obtain ⟨payload, hpayload, -, hpush⟩ := h.push_eq hwidth hheight (hfills.fits h.allocated)
  rw [h.picture_eq] at hpayload
  subst hpayload
  exact ⟨_, hpush, rfl⟩

/-- The device carries out a task and answers with a return code. -/
def Completes (pipe : π) (task : Task) (code : UInt8) : Prop :=
  ∃ turns buffer after, Usb.Dialogue pipe turns after ∧ task.Makes turns ⟨.ok code, buffer⟩

theorem completes_iff {handle : Handle π} {task : Task} {code : UInt8} :
    Completes handle.device.pipe task code ↔
      (Exchange.run task.request.block task.data handle).1.result = .ok code := by
  constructor
  · rintro ⟨turns, buffer, after, hturns, hmade⟩
    have hdialogue : Usb.Dialogue handle turns (handle.after turns after) :=
      Usb.dialogue_handle_iff.2 ⟨after, hturns, rfl⟩
    rw [Exchange.Conforms.run_eq hmade hdialogue]
  · intro h
    obtain ⟨turns, hturns, hmade⟩ :=
      Exchange.exists_conforms task.request.block task.data handle
    generalize (Exchange.run task.request.block task.data handle).1 = outcome at h hmade
    obtain ⟨result, buffer⟩ := outcome
    cases h
    exact ⟨turns, buffer, _, (Usb.dialogue_handle hturns).2.1, hmade⟩

theorem completes_exposure_iff {code : UInt8} :
    Completes frame.pipe.device.pipe (exposure settings frame.width frame.height picture) code ↔
      (Frame.blit (exposed settings frame.width frame.height picture).resident (panel frame)
        frame).1 = .ok code := by
  have hfits : (exposed settings frame.width frame.height picture).resident.size =
      (panel frame).byteLength := exposed_fits settings frame.width frame.height picture
  rw [completes_iff, Frame.blit_eq hfits]
  rfl

theorem completes_brightness_iff {level : UInt16} {code : UInt8}
    (h : level ≤ Request.maxBrightness) :
    Completes frame.pipe.device.pipe (.brightness level) code ↔
      (Frame.setBacklight level frame).1 = .ok code := by
  rw [completes_iff, Frame.setBacklight_eq h]
  rfl

/-- The settings name a device that can be opened and claimed, that says the size of its panel, and
that takes the level of the settings, if they have one. -/
structure Available (settings : Settings) (bus : Bus π) (device : Attached π)
    (width height : UInt16) (pipe : π) : Prop where
  found : ∃ place, Locator.Found settings.device bus place device
  opens : device.openError = none
  claims : device.claimError = none
  lit : ∃ query lighting, Usb.Dialogue device.pipe (query ++ lighting) pipe ∧
    Frame.Reported query width height ∧
    Follows (settings.backlight.toList.map Task.brightness) lighting (.ok ())
  level : ∀ level, settings.backlight = some level → level ≤ Request.maxBrightness
  positive : 1 ≤ width ∧ 1 ≤ height

variable {bus : Bus π}

theorem available_of_open (h : openFrame settings bus = .ok frame) :
    ∃ device, Available settings bus device frame.width frame.height frame.pipe.device.pipe ∧
      device.releaseError = frame.pipe.device.releaseError := by
  rcases openFrame_cases settings bus with ⟨failed, hfailed, -⟩ | ⟨lit, query, lighting, hlit,
    ⟨place, device, found, opens, claims, hturns⟩, reported, hwidth, hheight, level, follows⟩
  · cases h.symm.trans hfailed
  · cases h.symm.trans hlit
    obtain ⟨pipe, hpipe, hafter⟩ := Usb.dialogue_handle_iff.1 hturns
    rw [hafter]
    exact ⟨device, ⟨⟨place, found⟩, opens, claims, ⟨query, lighting, hpipe, reported, follows⟩,
      level, hwidth, hheight⟩, rfl⟩

theorem Available.open {device : Attached π} {width height : UInt16} {pipe : π}
    (h : Available settings bus device width height pipe) :
    ∃ frame, openFrame settings bus = .ok frame ∧ frame.width = width ∧ frame.height = height ∧
      frame.pipe.device.pipe = pipe ∧
      frame.pipe.device.releaseError = device.releaseError := by
  obtain ⟨⟨place, found⟩, opens, claims, ⟨query, lighting, hturns, reported, follows⟩, level,
    hwidth, hheight⟩ := h
  have hdialogue : Usb.Dialogue (Locator.claimed bus place device) (query ++ lighting)
      ((Locator.claimed bus place device).after (query ++ lighting) pipe) :=
    Usb.dialogue_handle_iff.2 ⟨pipe, hturns, rfl⟩
  have hlit : Lit settings bus
      ⟨(Locator.claimed bus place device).after (query ++ lighting) pipe, width, height⟩ query
        lighting :=
    ⟨⟨place, device, found, opens, claims, hdialogue⟩, reported, hwidth, hheight, level, follows⟩
  exact ⟨_, hlit.openFrame_eq, rfl, rfl, rfl, rfl⟩

/-- A run that does not fail prints what was achieved; one that fails has status one and prints
nothing. -/
structure Decides (run : Run π) (achieved : List String → Prop) : Prop where
  told : ∀ lines, achieved lines ↔ run.failure = none ∧ run.printed = lines
  failed : ∀ failure, run.failure = some failure → failure.status = 1 ∧ run.printed = []

section Decides

variable {run : Run π} {achieved other : List String → Prop}

omit [Usb.Pipe π] in
theorem Decides.congr (h : Decides run achieved) (hiff : ∀ lines, other lines ↔ achieved lines) :
    Decides run other :=
  ⟨fun lines => (hiff lines).trans (h.told lines), h.failed⟩

omit [Usb.Pipe π] in
theorem Decides.reported (h : Decides run achieved) (lines : List String) :
    (Report.ofRun run).status = 0 ∧ (Report.ofRun run).printed = lines ↔ achieved lines := by
  rw [h.told lines]
  exact and_congr_left fun _ => ⟨failure_of_status, status_of_none⟩

omit [Usb.Pipe π] in
theorem decides_failed {failure : Failure} (hfailure : run.failure = some failure)
    (hstatus : failure.status = 1) (hprinted : run.printed = [])
    (hmissed : ∀ lines, ¬ achieved lines) : Decides run achieved := by
  constructor
  · intro lines
    refine iff_of_false (hmissed lines) ?_
    rintro ⟨hnone, -⟩
    cases hfailure.symm.trans hnone
  · intro cause hcause
    cases hfailure.symm.trans hcause
    exact ⟨hstatus, hprinted⟩

omit [Usb.Pipe π] in
theorem close_fst (howed : frame.pipe.owed = true) : (Locator.close frame).1 =
    (Usb.outcome frame.pipe.device.releaseError).mapError .usb := by
  simp only [Locator.close, Handle.release, howed, if_true, Handle.unclaim, Handle.record]
  cases frame.pipe.device.releaseError <;> rfl

omit [Usb.Pipe π] in
theorem decides_closing (howed : frame.pipe.owed = true) (printed : List String) :
    Decides (.closing (Locator.close frame) printed)
      (fun lines => lines = printed ∧ frame.pipe.device.releaseError = none) := by
  have hclose := close_fst howed
  generalize Locator.close frame = closed at hclose
  obtain ⟨result, after⟩ := closed
  cases hrelease : frame.pipe.device.releaseError with
  | some cause =>
    rw [hrelease] at hclose
    cases hclose
    refine decides_failed rfl rfl rfl ?_
    rintro lines ⟨-, hnone⟩
    cases hnone
  | none =>
    rw [hrelease] at hclose
    cases hclose
    constructor
    · intro lines
      exact ⟨fun hdone => ⟨rfl, hdone.1.symm⟩, fun hdone => ⟨hdone.2.symm, rfl⟩⟩
    · intro failure hfailure
      cases hfailure

omit [Usb.Pipe π] in
theorem decides_closing_failed (closed : Except Fault Unit × Bus π) {failure : Failure}
    (hstatus : failure.status = 1) (hmissed : ∀ lines, ¬ achieved lines) :
    Decides (.closing closed [] (some failure)) achieved := by
  obtain ⟨fault | done, after⟩ := closed
  · exact decides_failed rfl rfl rfl hmissed
  · exact decides_failed rfl hstatus rfl hmissed

end Decides

theorem reaches_handle {handle handle' : Handle π} (h : Usb.Reaches handle handle') :
    handle'.owed = handle.owed ∧ handle'.device.releaseError = handle.device.releaseError := by
  obtain ⟨turns, hturns⟩ := h
  obtain ⟨pipe, -, rfl⟩ := Usb.dialogue_handle_iff.1 hturns
  exact ⟨rfl, rfl⟩

def updateLine (width height : UInt16) (code : UInt8) : String :=
  "Updated [0, 0, " ++ toString width.toNat ++ ", " ++ toString height.toNat ++
    "] (device returned " ++ toString code.toNat ++ ")"

/-- What a command has to do on a device that is lit, and what it then prints. -/
inductive Served (decode : Decoder) (files : Files) (settings : Settings) (width height : UInt16)
    (pipe : π) : Command → List String → Prop
  | cleared {text : String} {color : Color} {code : UInt8} (colored : Color.ofHex? text = some color)
      (completed : Completes pipe (exposure settings width height (plain color)) code) :
      Served decode files settings width height pipe (.clear text)
        [updateLine width height code, "Display cleared to: " ++ text]
  | painted {path : String} {picture : Picture} {code : UInt8}
      (loaded : decode files path = some picture)
      (completed : Completes pipe (exposure settings width height picture) code) :
      Served decode files settings width height pipe (.paint path) [updateLine width height code]
  | dimmed {level : UInt16} {code : UInt8} (valid : level ≤ Request.maxBrightness)
      (completed : Completes pipe (.brightness level) code) :
      Served decode files settings width height pipe (.backlight level)
        ["Backlight set to: " ++ toString level.toNat]
  | watched {path : String} {interval : Option UInt64} :
      Served decode files settings width height pipe (.watch path interval) []

/-- A command is served by a device that is available, and the device takes its interface back. -/
def Obtained (decode : Decoder) (files : Files) (settings : Settings) (bus : Bus π)
    (command : Command) (lines : List String) : Prop :=
  ∃ device width height pipe, Available settings bus device width height pipe ∧
    Served decode files settings width height pipe command lines ∧ device.releaseError = none

def Achieved (decode : Decoder) (files : Files) (bus : Bus π) (i : Invocation)
    (lines : List String) : Prop :=
  ∃ settings, settingsOf files i = .ok settings ∧ Obtained decode files settings bus i.command lines

theorem printed_of_open {run : Run π} (h : openFrame settings bus = .error run) :
    run.printed = [] := by
  rw [openFrame] at h
  split at h
  · cases h
    rfl
  · rename_i opened _
    split at h
    · cases h
    · split at h
      · cases h
      · cases h
        rfl

variable {decode : Decoder} {files : Files} {command : Command}

theorem decides_of_open {run : Run π}
    (hfailed : ∀ failed, openFrame settings bus = .error failed → run = failed)
    (h : ∀ frame, openFrame settings bus = .ok frame → frame.pipe.owed = true →
      1 ≤ frame.width → 1 ≤ frame.height → Decides run fun lines =>
        Served decode files settings frame.width frame.height frame.pipe.device.pipe command lines ∧
          frame.pipe.device.releaseError = none) :
    Decides run (Obtained decode files settings bus command) := by
  rcases openFrame_cases settings bus with ⟨failed, hopen, hunlit⟩ | ⟨frame, query, lighting, hopen,
    hlit⟩
  · rw [hfailed failed hopen]
    obtain ⟨failure, hfailure, hstatus⟩ := hunlit.failed
    refine decides_failed hfailure hstatus (printed_of_open hopen) ?_
    rintro lines ⟨device, width, height, pipe, havailable, -⟩
    obtain ⟨frame, hframe, -⟩ := havailable.open
    cases hframe.symm.trans hopen
  · have held : Locator.Held bus frame.pipe := by
      have hsettled := openFrame_settled settings bus
      rwa [hopen] at hsettled
    refine (h frame hopen held.owed hlit.width_pos hlit.height_pos).congr fun lines => ?_
    constructor
    · rintro ⟨device, width, height, pipe, havailable, hserved, hreleased⟩
      obtain ⟨lit, hlit, rfl, rfl, rfl, hsame⟩ := havailable.open
      cases hopen.symm.trans hlit
      exact ⟨hserved, hsame.trans hreleased⟩
    · rintro ⟨hserved, hreleased⟩
      obtain ⟨device, havailable, hsame⟩ := available_of_open hopen
      exact ⟨device, _, _, _, havailable, hserved, hsame.trans hreleased⟩

end PictureFrame.CommandLine
