import PictureFrame.Proofs.Color.Hex
import PictureFrame.Proofs.CommandLine.Achieved

set_option autoImplicit false

/-!
# What the exit status tells

A command passes an error on, carries it past the closing of the frame, or passes over it. Whatever
it does, status zero tells that all of its steps succeeded, the release of the frame included. A
command that fails has reported nothing, unless it is for the size of the panel: that is printed
before the frame is closed. Watching is for opening and closing a frame; what becomes of its
pictures does not count. All of this is about the report; the log, which has its lines on standard
output as well, is left out.
-/
namespace PictureFrame.CommandLine

open Usb (Bus Handle)

variable {π : Type} [Usb.Pipe π] {settings : Settings} {bus : Bus π} {frame : Frame (Handle π)}
variable {fb : Framebuffer} {s : Session (Frame (Handle π))} {picture : Picture}
variable {decode : Decoder} {files : Files} {command : Command}

theorem setBacklight_decides (decode : Decoder) (files : Files) (settings : Settings)
    (level : UInt16) (bus : Bus π) : Decides (setBacklight settings level bus)
      (Obtained decode files settings bus (.backlight level)) := by
  refine decides_of_open ?_ ?_
  · intro failed hopen
    simp only [setBacklight, hopen]
  · intro frame hopen howed _ _
    obtain ⟨howed', hreleases⟩ := reaches_handle (Frame.setBacklight_reaches level frame)
    simp only [setBacklight, hopen]
    rcases hset : Frame.setBacklight level frame with ⟨fault | code, lit⟩
    · refine decides_failed rfl rfl rfl ?_
      rintro lines ⟨hserved, -⟩
      cases hserved with
      | dimmed valid completed =>
        rw [completes_brightness_iff valid, hset] at completed
        cases completed
    · have hlevel : level ≤ Request.maxBrightness := by
        refine Decidable.byContradiction fun hbright => ?_
        rw [Frame.setBacklight_of_bright hbright] at hset
        cases hset
      rw [hset] at howed' hreleases
      refine (decides_closing (howed'.trans howed) _).congr fun lines => ?_
      rw [hreleases]
      refine and_congr_left fun _ => ⟨?_, ?_⟩
      · intro hserved
        cases hserved
        rfl
      · rintro rfl
        have hcode : (Frame.setBacklight level frame).1 = .ok code := by rw [hset]
        exact .dimmed hlevel ((completes_brightness_iff hlevel).2 hcode)

omit [Usb.Pipe π] in
theorem report_sent (width height : UInt16) (code : UInt8) :
    report (.sent ⟨0, 0, width, height⟩ code) = .ok (updateLine width height code) := by
  have hline : ∀ columns rows answer : String,
      "Updated " ++ ("[" ++ toString (0 : UInt16).toNat ++ ", " ++ toString (0 : UInt16).toNat ++
        ", " ++ columns ++ ", " ++ rows ++ "]") ++ " (device returned " ++ answer ++ ")" =
      "Updated [0, 0, " ++ columns ++ ", " ++ rows ++ "] (device returned " ++ answer ++ ")" := by
    intro columns rows answer
    have hstart : "Updated " ++ "[" ++ toString (0 : UInt16).toNat ++ ", " ++
        toString (0 : UInt16).toNat ++ ", " = "Updated [0, 0, " := rfl
    have hend : "]" ++ " (device returned " = "] (device returned " := rfl
    rw [← hstart, ← hend]
    simp only [String.append_assoc]
  exact congrArg Except.ok (hline _ _ _)

omit [Usb.Pipe π] in
theorem finish_decides {answer : Except Fault UInt8} {width height : UInt16}
    (howed : s.screen.pipe.owed = true) (more : List String) :
    Decides (finish (.ofAnswer ⟨0, 0, width, height⟩ answer, s) more) fun lines =>
      (∃ code, answer = .ok code ∧ lines = updateLine width height code :: more) ∧
        s.screen.pipe.device.releaseError = none := by
  cases answer with
  | error fault =>
    refine decides_closing_failed _ rfl ?_
    rintro lines ⟨⟨code, hanswer, -⟩, -⟩
    cases hanswer
  | ok code =>
    simp only [finish, Flush.ofAnswer, report_sent]
    refine (decides_closing howed _).congr fun lines => and_congr_left fun _ => ⟨?_, ?_⟩
    · rintro ⟨_, hanswer, rfl⟩
      cases hanswer
      rfl
    · rintro rfl
      exact ⟨code, rfl, rfl⟩

theorem painted_decides (h : Fresh settings frame fb s) (howed : frame.pipe.owed = true)
    (hwidth : 1 ≤ frame.width) (hheight : 1 ≤ frame.height) (hfills : picture.Fills)
    (more : List String) :
    ∃ run, (do return finish (← push s picture) more : Checked (Run π)) = .ok run ∧
      Decides run fun lines => (∃ code, Completes frame.pipe.device.pipe
          (exposure settings frame.width frame.height picture) code ∧
        lines = updateLine frame.width frame.height code :: more) ∧
          frame.pipe.device.releaseError = none := by
  obtain ⟨s', hpush, hscreen⟩ := h.push_exposed hwidth hheight hfills
  obtain ⟨howed', hreleases⟩ := reaches_handle (Frame.blit_reaches
    (exposed settings frame.width frame.height picture).resident (panel frame) frame)
  rw [← hscreen] at howed' hreleases
  refine ⟨_, by rw [hpush]; rfl, (finish_decides (howed'.trans howed) more).congr fun lines => ?_⟩
  rw [hreleases]
  simp only [completes_exposure_iff]

theorem clear_decides (decode : Decoder) (files : Files) (settings : Settings) (text : String)
    (bus : Bus π) : Decides (clear settings text bus)
      (Obtained decode files settings bus (.clear text)) := by
  cases hcolor : Color.ofHex? text with
  | none =>
    simp only [clear, hcolor]
    refine decides_failed rfl rfl rfl ?_
    rintro lines ⟨device, width, height, pipe, -, hserved, -⟩
    cases hserved with
    | cleared colored completed => cases hcolor.symm.trans colored
  | some color =>
    simp only [clear, hcolor]
    refine decides_of_open (fun failed hopen => withSession_of_error hopen _) ?_
    intro frame hopen howed hwidth hheight
    obtain ⟨fb, s, hstart, hfresh⟩ := startSession_fresh settings frame
    obtain ⟨run, hrun, hdecides⟩ := painted_decides hfresh howed hwidth hheight (fills_plain color)
      ["Display cleared to: " ++ text]
    rw [withSession_of_ok hopen hstart hrun]
    refine hdecides.congr fun lines => and_congr_left fun _ => ⟨?_, ?_⟩
    · intro hserved
      cases hserved with
      | cleared colored completed =>
        cases hcolor.symm.trans colored
        exact ⟨_, completed, rfl⟩
    · rintro ⟨code, completed, rfl⟩
      exact .cleared hcolor completed

theorem paint_decides {decode : Decoder} {files : Files} (hdecode : decode.Fills files)
    (settings : Settings) (path : String) (bus : Bus π) :
    Decides (paint decode settings files path bus)
      (Obtained decode files settings bus (.paint path)) := by
  refine decides_of_open (fun failed hopen => withSession_of_error hopen _) ?_
  intro frame hopen howed hwidth hheight
  obtain ⟨fb, s, hstart, hfresh⟩ := startSession_fresh settings frame
  cases hpicture : decode files path with
  | none =>
    have hpaint : paint decode settings files path bus =
        .fail s.screen.pipe.drop (.image path) :=
      withSession_of_ok hopen hstart (by rw [hpicture])
    rw [hpaint]
    refine decides_failed rfl rfl rfl ?_
    rintro lines ⟨hserved, -⟩
    cases hserved with
    | painted loaded completed => cases hpicture.symm.trans loaded
  | some picture =>
    obtain ⟨run, hrun, hdecides⟩ := painted_decides hfresh howed hwidth hheight
      (hdecode path picture hpicture) []
    have hpaint : paint decode settings files path bus = run :=
      withSession_of_ok hopen hstart (by rw [hpicture]; exact hrun)
    rw [hpaint]
    refine hdecides.congr fun lines => and_congr_left fun _ => ⟨?_, ?_⟩
    · intro hserved
      cases hserved with
      | painted loaded completed =>
        cases hpicture.symm.trans loaded
        exact ⟨_, completed, rfl⟩
    · rintro ⟨code, completed, rfl⟩
      exact .painted hpicture completed

theorem Fresh.exists_watched (hdecode : decode.Fills files) (h : Fresh settings frame fb s)
    (path : String) (looks : List Nat) :
    ∃ last, looks.foldlM (fun s _ => watchOnce decode files path s) s = .ok last := by
  cases hpicture : decode files path with
  | none => exact ⟨s, watched_of_still (watchOnce_of_unloaded hpicture) looks⟩
  | some picture =>
    have hfb : s.framebuffer = some fb := by rw [h.session]
    obtain ⟨last, -, hlast, -⟩ :=
      watched_tried hpicture (hdecode path picture hpicture) h.wellFormed hfb looks
    exact ⟨last, hlast⟩

theorem watch_decides (hdecode : decode.Fills files) (settings : Settings) (path : String)
    {interval : UInt64} (hinterval : interval ≠ 0) (asked : Option UInt64) (looks : Nat)
    (bus : Bus π) : Decides (watch decode settings files path interval looks bus)
      (Obtained decode files settings bus (.watch path asked)) := by
  rw [watch, if_neg hinterval]
  refine decides_of_open (fun failed hopen => withSession_of_error hopen _) ?_
  intro frame hopen howed _ _
  obtain ⟨fb, s, hstart, hfresh⟩ := startSession_fresh settings frame
  obtain ⟨last, hlast⟩ := hfresh.exists_watched hdecode path (List.range looks)
  have hreaches := watched_reaches hlast
  rw [startSession_screen hstart] at hreaches
  obtain ⟨howed', hreleases⟩ := reaches_handle hreaches
  have hrun : (do
      let s ← (List.range looks).foldlM (fun s _ => watchOnce decode files path s) s
      return .closing (Locator.close s.screen) [] : Checked (Run π)) =
        .ok (.closing (Locator.close last.screen) []) := by rw [hlast]; rfl
  rw [withSession_of_ok hopen hstart hrun]
  refine (decides_closing (howed'.trans howed) []).congr fun lines => ?_
  rw [hreleases]
  refine and_congr_left fun _ => ⟨?_, ?_⟩
  · intro hserved
    cases hserved
    rfl
  · rintro rfl
    exact .watched

theorem run_decides (hdecode : decode.Fills files) (looks : Nat) (bus : Bus π) {i : Invocation}
    (hlist : i.command ≠ .list) (hinfo : i.command ≠ .info)
    (hinterval : ∀ path interval, i.command = .watch path interval → interval ≠ some 0) :
    Decides (run decode files looks i bus) (Achieved decode files bus i) := by
  cases hsettings : settingsOf files i with
  | error failure =>
    simp only [run, hsettings]
    refine decides_failed rfl (status_of_settingsOf hsettings) rfl ?_
    rintro lines ⟨settings, hloaded, -⟩
    cases hsettings.symm.trans hloaded
  | ok settings =>
    have hachieved : ∀ lines, Achieved decode files bus i lines ↔
        Obtained decode files settings bus i.command lines := by
      intro lines
      constructor
      · rintro ⟨loaded, hloaded, hobtained⟩
        cases hsettings.symm.trans hloaded
        exact hobtained
      · exact fun hobtained => ⟨settings, hsettings, hobtained⟩
    suffices hdecides : Decides (run decode files looks i bus)
        (Obtained decode files settings bus i.command) from hdecides.congr hachieved
    simp only [run, hsettings]
    cases hcommand : i.command with
    | list => exact absurd hcommand hlist
    | info => exact absurd hcommand hinfo
    | clear text => exact clear_decides decode files settings text bus
    | paint path => exact paint_decides hdecode settings path bus
    | backlight level => exact setBacklight_decides decode files settings level bus
    | watch path interval =>
      refine watch_decides hdecode settings path ?_ interval looks bus
      cases interval with
      | none => exact watchInterval_ne_zero hsettings
      | some interval => exact fun hzero => hinterval path _ hcommand (congrArg some hzero)

omit [Usb.Pipe π] in
theorem list_failed {failure : Failure} (h : (list bus).failure = some failure) :
    failure.status = 1 ∧ (list bus).printed = [] := by
  rw [list] at h ⊢
  generalize Locator.count bus = counted at h ⊢
  obtain ⟨fault | count, after⟩ := counted
  · cases h
    exact ⟨rfl, rfl⟩
  · cases h

theorem info_failed {failure : Failure} (h : (info settings bus).failure = some failure) :
    failure.status = 1 := by
  rcases openFrame_cases settings bus with ⟨failed, hopen, hunlit⟩ | ⟨frame, -, -, hopen, -⟩
  · obtain ⟨cause, hcause, hstatus⟩ := hunlit.failed
    simp only [info, hopen] at h
    cases h.symm.trans hcause
    exact hstatus
  · simp only [info, hopen] at h
    generalize Locator.close frame = closed at h
    obtain ⟨fault | done, after⟩ := closed
    · cases h
      rfl
    · cases h

theorem run_failed (hdecode : decode.Fills files) (looks : Nat) (bus : Bus π) {i : Invocation}
    (hinterval : ∀ path interval, i.command = .watch path interval → interval ≠ some 0)
    {failure : Failure} (h : (run decode files looks i bus).failure = some failure) :
    failure.status = 1 ∧ (i.command ≠ .info → (run decode files looks i bus).printed = []) := by
  by_cases hplain : i.command = .list ∨ i.command = .info
  · cases hsettings : settingsOf files i with
    | error cause =>
      simp only [run, hsettings] at h ⊢
      cases h
      exact ⟨status_of_settingsOf hsettings, fun _ => rfl⟩
    | ok settings =>
      simp only [run, hsettings] at h ⊢
      rcases hplain with hlist | hinfo
      · simp only [hlist] at h ⊢
        exact ⟨(list_failed h).1, fun _ => (list_failed h).2⟩
      · simp only [hinfo] at h ⊢
        exact ⟨info_failed h, fun hother => absurd rfl hother⟩
  · obtain ⟨hlist, hinfo⟩ := not_or.1 hplain
    obtain ⟨hstatus, hprinted⟩ :=
      (run_decides hdecode looks bus hlist hinfo hinterval).failed failure h
    exact ⟨hstatus, fun _ => hprinted⟩

def upToDateLine : String := "Display already up to date"

theorem upToDateLine_ne_updateLine (width height : UInt16) (code : UInt8) :
    upToDateLine ≠ updateLine width height code := by
  have hline : ∀ columns rows answer : String, upToDateLine ≠
      "Updated [0, 0, " ++ columns ++ ", " ++ rows ++ "] (device returned " ++ answer ++ ")" := by
    intro columns rows answer heq
    have hfirst := congrArg (·.toList.head?) heq
    simp [upToDateLine] at hfirst
  exact hline _ _ _

theorem upToDateLine_ne_cleared (text : String) :
    upToDateLine ≠ "Display cleared to: " ++ text := by
  intro heq
  have hstart := congrArg (·.toList.take 9) heq
  simp [upToDateLine] at hstart

theorem painting_ne (h : (∃ text, command = .clear text) ∨ ∃ path, command = .paint path) :
    command ≠ .list ∧ command ≠ .info := by
  obtain ⟨text, rfl⟩ | ⟨path, rfl⟩ := h
  · exact ⟨by simp, by simp⟩
  · exact ⟨by simp, by simp⟩

theorem Obtained.changed {lines : List String}
    (h : Obtained decode files settings bus command lines)
    (hpaints : (∃ text, command = .clear text) ∨ ∃ path, command = .paint path) :
    upToDateLine ∉ lines := by
  obtain ⟨device, width, height, pipe, -, hserved, -⟩ := h
  cases hserved with
  | cleared colored completed =>
    simp only [List.mem_cons, List.not_mem_nil, or_false, upToDateLine_ne_updateLine,
      upToDateLine_ne_cleared, not_false_eq_true]
  | painted loaded completed =>
    simp only [List.mem_cons, List.not_mem_nil, or_false, upToDateLine_ne_updateLine,
      not_false_eq_true]
  | dimmed valid completed =>
    obtain ⟨_, hcommand⟩ | ⟨_, hcommand⟩ := hpaints <;> cases hcommand
  | watched =>
    obtain ⟨_, hcommand⟩ | ⟨_, hcommand⟩ := hpaints <;> cases hcommand

/-- What the status of a report and its printed lines tell about the invocation. The lines are those
of the report alone; what the log writes to standard output is not among them. -/
structure Truthful (decode : Decoder) (files : Files) (bus : Bus π) (i : Invocation)
    (report : Report) : Prop where
  status : report.status = 0 ∨ report.status = 1
  achieved : i.command ≠ .list → i.command ≠ .info → ∀ lines,
    report.status = 0 ∧ report.printed = lines ↔ Achieved decode files bus i lines
  silent : i.command ≠ .info → report.status = 1 → report.printed = []
  changed : (∃ text, i.command = .clear text) ∨ (∃ path, i.command = .paint path) →
    upToDateLine ∉ report.printed

theorem run_truthful (hdecode : decode.Fills files) (looks : Nat) (bus : Bus π) {i : Invocation}
    (hinterval : ∀ path interval, i.command = .watch path interval → interval ≠ some 0) :
    Truthful decode files bus i (.ofRun (run decode files looks i bus)) := by
  have hachieved : i.command ≠ .list → i.command ≠ .info → ∀ lines,
      (Report.ofRun (run decode files looks i bus)).status = 0 ∧
        (Report.ofRun (run decode files looks i bus)).printed = lines ↔
          Achieved decode files bus i lines :=
    fun hlist hinfo => (run_decides hdecode looks bus hlist hinfo hinterval).reported
  cases hfailure : (run decode files looks i bus).failure with
  | some failure =>
    obtain ⟨hstatus, hprinted⟩ := run_failed hdecode looks bus hinterval hfailure
    refine ⟨.inr ((status_of_some hfailure).trans hstatus), hachieved,
      fun hinfo _ => hprinted hinfo, ?_⟩
    intro hpaints
    have hnothing : (Report.ofRun (run decode files looks i bus)).printed = [] :=
      hprinted (painting_ne hpaints).2
    rw [hnothing]
    exact List.not_mem_nil
  | none =>
    have hzero := status_of_none hfailure
    refine ⟨.inl hzero, hachieved, fun _ hone => ?_, ?_⟩
    · cases hzero.symm.trans hone
    · intro hpaints
      obtain ⟨hlist, hinfo⟩ := painting_ne hpaints
      obtain ⟨settings, -, hobtained⟩ := (hachieved hlist hinfo _).1 ⟨hzero, rfl⟩
      exact hobtained.changed hpaints

/-- A command line that is accepted exits with zero or one, and with zero exactly if all that it is
for was achieved: then it reports what it did. With status one it has reported nothing, unless it is
for printing the size of the panel. -/
theorem status_truthful {decode : Decoder} {files : Files} (hdecode : decode.Fills files)
    (looks : Nat) (bus : Bus π) {args : List String} {i : Invocation}
    (hparse : parse args = some (.run i)) :
    Truthful decode files bus i (runLineWith decode args files looks bus).1 := by
  simp only [runLineWith, hparse]
  refine run_truthful hdecode looks bus ?_
  intro path interval hcommand
  obtain ⟨config, device, command⟩ := i
  cases hcommand
  exact interval_ne_zero_of_parse hparse

theorem status_truthful_narrow :
    Achieved picture? narrowFile twoColumns ⟨some "narrow.toml", none, .clear "#FFFFFF"⟩
      ["Updated [0, 0, 2, 1] (device returned 0)", "Display cleared to: #FFFFFF"] ∧
    (∀ lines, ¬ Achieved picture? narrowFile mute ⟨none, none, .backlight 3⟩ lines) ∧
    (runLineWith picture? ["backlight", "3"] narrowFile 1 mute).1.printed = [] := by
  have hclear := status_truthful (fills_picture? narrowFile) 1 twoColumns
    (show parse ["-c", "narrow.toml", "clear", "--color", "#FFFFFF"] =
      some (.run ⟨some "narrow.toml", none, .clear "#FFFFFF"⟩) by decide +kernel)
  have hdim := status_truthful (fills_picture? narrowFile) 1 mute
    (show parse ["backlight", "3"] = some (.run ⟨none, none, .backlight 3⟩) by decide +kernel)
  have hone : (runLineWith picture? ["backlight", "3"] narrowFile 1 mute).1.status = 1 := by
    decide +kernel
  refine ⟨(hclear.achieved (by simp) (by simp) _).1 ⟨by decide +kernel, by decide +kernel⟩, ?_,
    hdim.silent (by simp) hone⟩
  intro lines hlines
  cases hone.symm.trans ((hdim.achieved (by simp) (by simp) lines).2 hlines).1

def bare : Bus Usb.Script where
  devices := []

/-- With status one standard output need not be empty, for it takes the log as well, and status zero
does not say that a colour was in its written form. -/
theorem not_silent_nor_strict :
    ((runLineWith picture? ["backlight", "3"] narrowFile 1 bare).1.status = 1 ∧
      (runLineWith picture? ["backlight", "3"] narrowFile 1 bare).1.errors =
        ["Cannot open dpf device usb0",
          "No matching USB device 'usb0' found (0 AX206 frame(s) present)"] ∧
      Locator.warning "usb0" bare = some "No matching USB device 'usb0' found") ∧
    (runLineWith picture? ["clear", "--color", "+F+F+F"] narrowFile 1 twoColumns).1.status = 0 ∧
    ¬ ∃ color, Color.Standard "+F+F+F" color := by
  have hreadable : Locator.Readable bare := ⟨rfl, rfl, by simp [bare]⟩
  have hmissing : Locator.Fails "usb0" bare .deviceNotFound :=
    ⟨_, _, Locator.openFrame_of_missing (.inl rfl : Selector.Names "usb0" 0) hreadable
      (Nat.zero_le 0), rfl⟩
  refine ⟨⟨by decide +kernel, by decide +kernel, hmissing.warned.trans (by decide +kernel)⟩,
    by decide +kernel, ?_⟩
  rintro ⟨color, hstandard⟩
  exact (Color.standard_iff.1 hstandard).2 (by decide)

end PictureFrame.CommandLine
