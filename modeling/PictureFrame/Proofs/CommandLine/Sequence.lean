import PictureFrame.Proofs.CommandLine.Accepted
import PictureFrame.Proofs.CommandLine.Opening
import PictureFrame.Proofs.CommandLine.Push

set_option autoImplicit false

/-!
# What a frame hears from each command

A command asks for the size of the panel, sets the level of the settings and then does what it is
for, and it stops at the first exchange that fails. Only watching goes on after a blit that fails.
What it can know to be wrong before it uses the bus, it refuses before it uses the bus.
-/
namespace PictureFrame

theorem Tried.succ {count : Nat} {turns : List Usb.Turn} (h : Tried count turns) :
    Tried (count + 1) turns := by
  induction h with
  | done => exact .done
  | blit made tried ih => exact .blit made ih

namespace CommandLine

open Usb (Bus Handle Turn)

/-- What a command is for, as the requests that follow the query and the level of the settings. -/
def purpose (decode : Decoder) (files : Files) (looks : Nat) :
    Command → UInt16 → UInt16 → List Request
  | .list, _, _ => []
  | .info, _, _ => []
  | .clear _, width, height => [.blit ⟨0, 0, width, height⟩]
  | .paint path, width, height =>
    if (decode files path).isSome then [.blit ⟨0, 0, width, height⟩] else []
  | .backlight level, _, _ => if level ≤ Request.maxBrightness then [.brightness level] else []
  | .watch path _, width, height =>
    if (decode files path).isSome ∧ looks ≠ 0 then [.blit ⟨0, 0, width, height⟩] else []

/-- How many blits can follow. A watched file that stays as it is is painted again only where it is
folded onto a canvas that is smaller than the panel. -/
def further (settings : Settings) (looks : Nat) : Command → UInt16 → UInt16 → Nat
  | .watch _ _, width, height => if Covers settings width height then 0 else looks - 1
  | _, _, _ => 0

def Decoder.Fills (decode : Decoder) (files : Files) : Prop :=
  ∀ path picture, decode files path = some picture → picture.Fills

theorem fills_picture? (files : Files) : Decoder.Fills picture? files := by
  intro path picture h width height
  obtain ⟨image, -, rfl⟩ := Option.map_eq_some_iff.1 h
  exact image.scaled_size width height

variable {π : Type} [Usb.Pipe π] {settings : Settings} {bus : Bus π} {frame : Frame (Handle π)}

/-- One request is made of an open frame, or none. Whatever became of it, some blits are tried
before the frame is dropped. -/
inductive Serves (frame : Frame (Handle π)) (count : Nat) : List Request → Bus π → Prop
  | nothing : Serves frame count [] frame.pipe.drop
  | one {task : Task} {turns more : List Turn} {outcome : Exchange.Outcome}
      {handle handle' : Handle π} (made : task.Makes turns outcome)
      (pressed : Usb.Dialogue frame.pipe turns handle) (tried : Tried count more)
      (repeated : Usb.Dialogue handle more handle') : Serves frame count [task.request] handle'.drop

variable {requests : UInt16 → UInt16 → List Request} {repeats : UInt16 → UInt16 → Nat}

theorem Lit.heard {query lighting : List Turn} (h : Lit settings bus frame query lighting)
    {after : Bus π} (hserves : Serves frame (repeats frame.width frame.height)
      (requests frame.width frame.height) after) :
    ∃ turns, Usb.Heard bus after turns ∧
      Talk (fun width height => planned settings (requests width height)) repeats turns ∧
      Complete (fun width height => planned settings (requests width height)) turns := by
  generalize hplan : (fun width height => planned settings (requests width height)) = plan
  have hplanned : plan frame.width frame.height = (settings.backlight.toList.map
      Task.brightness).map Task.request ++ requests frame.width frame.height :=
    hplan ▸ h.planned_eq _
  generalize requests frame.width frame.height = purpose at hserves hplanned
  cases hserves with
  | nothing =>
    rw [List.append_nil] at hplanned
    refine ⟨query ++ lighting, h.talked.heard_drop, ?_, ?_⟩
    · exact .sized h.reported ⟨h.width_pos, h.height_pos⟩ hplanned.symm h.follows
    · refine ⟨query, lighting, [], _, _, (List.append_nil _).symm, h.reported, ?_⟩
      rw [h.follows.envelopes_eq, hplanned]
  | @one task turns more outcome handle handle' made pressed tried repeated =>
    refine ⟨query ++ (lighting ++ turns) ++ more, ?_, ?_, ?_⟩
    · have hheard := ((h.talked.append pressed).append repeated).heard_drop
      rwa [List.append_assoc query] at hheard
    · refine .pressed h.reported ⟨h.width_pos, h.height_pos⟩ ?_ h.follows made tried
      rw [hplanned, List.map_append]
      rfl
    · -- The envelope of the last task is written even if its exchange fails.
      refine ⟨query, lighting ++ turns, more, _, _, rfl, h.reported, ?_⟩
      rw [List.map_append, envelopes_append, h.follows.envelopes_eq, made.envelopes_eq, hplanned,
        List.map_append]
      rfl

/-- The frame hears what is planned, all of it unless the run fails, as it does with status one if
the level of the settings is too high. -/
structure Conducted (settings : Settings) (bus : Bus π) (requests : UInt16 → UInt16 → List Request)
    (repeats : UInt16 → UInt16 → Nat) (run : Run π) : Prop where
  heard : ∃ turns, Usb.Heard bus run.bus turns ∧
    Talk (fun width height => planned settings (requests width height)) repeats turns ∧
    (run.failure = none →
      Complete (fun width height => planned settings (requests width height)) turns)
  bright : ∀ level, settings.backlight = some level → ¬ level ≤ Request.maxBrightness →
    ∃ failure, run.failure = some failure ∧ failure.status = 1

theorem conducted {run : Run π} (hfailed : ∀ failed, openFrame settings bus = .error failed →
    run = failed)
    (h : ∀ frame, openFrame settings bus = .ok frame → 1 ≤ frame.width → 1 ≤ frame.height →
      Serves frame (repeats frame.width frame.height) (requests frame.width frame.height) run.bus) :
    Conducted settings bus requests repeats run := by
  rcases openFrame_cases settings bus with ⟨failed, hopen, hunlit⟩ | ⟨frame, query, lighting, hopen,
    hlit⟩
  · rw [hfailed failed hopen]
    obtain ⟨turns, hheard, htalk⟩ := hunlit.heard
    refine ⟨⟨turns, hheard, htalk requests repeats, ?_⟩, fun _ _ _ => hunlit.failed⟩
    intro hnone
    obtain ⟨failure, hfailure, -⟩ := hunlit.failed
    cases hnone.symm.trans hfailure
  · obtain ⟨turns, hheard, htalk, hcomplete⟩ :=
      hlit.heard (h frame hopen hlit.width_pos hlit.height_pos)
    refine ⟨⟨turns, hheard, htalk, fun _ => hcomplete⟩, ?_⟩
    intro level hlevel hbright
    exact absurd (hlit.level level hlevel) hbright

theorem withSession_conducted {next : Session (Frame (Handle π)) → Checked (Run π)}
    (h : ∀ frame fb s, Fresh settings frame fb s → 1 ≤ frame.width → 1 ≤ frame.height →
      ∃ run, next s = .ok run ∧ Serves frame (repeats frame.width frame.height)
        (requests frame.width frame.height) run.bus) :
    Conducted settings bus requests repeats (withSession settings bus next) := by
  refine conducted ?_ ?_
  · intro failed hopen
    exact withSession_of_error hopen next
  · intro frame hopen hwidth hheight
    obtain ⟨fb, s, hstart, hfresh⟩ := startSession_fresh settings frame
    obtain ⟨run, hnext, hserves⟩ := h frame fb s hfresh hwidth hheight
    rw [withSession_of_ok hopen hstart hnext]
    exact hserves

theorem info_conducted (settings : Settings) (bus : Bus π) :
    Conducted settings bus (fun _ _ => []) (fun _ _ => 0) (info settings bus) := by
  refine conducted ?_ ?_
  · intro failed hopen
    simp only [info, hopen]
  · intro frame hopen _ _
    have hbus : (info settings bus).bus = frame.pipe.drop := by
      rw [← Locator.close_eq_drop, info, hopen]
      rcases hclose : Locator.close frame with ⟨fault | done, after⟩
      · simp only [hclose, Run.fail]
      · simp only [hclose]
    rw [hbus]
    exact .nothing

theorem setBacklight_conducted (settings : Settings) (level : UInt16) (bus : Bus π) :
    Conducted settings bus
      (fun _ _ => if level ≤ Request.maxBrightness then [.brightness level] else [])
      (fun _ _ => 0) (setBacklight settings level bus) := by
  refine conducted ?_ ?_
  · intro failed hopen
    simp only [setBacklight, hopen]
  · intro frame hopen _ _
    have hbus : (setBacklight settings level bus).bus =
        (Frame.setBacklight level frame).2.pipe.drop := by
      simp only [setBacklight, hopen]
      rcases Frame.setBacklight level frame with ⟨fault | code, lit⟩
      · rfl
      · exact (closing_bus _ _ _).trans (Locator.close_eq_drop lit)
    rw [hbus]
    split_ifs with hlevel
    · obtain ⟨turns, outcome, -, hturns, hmade⟩ := Frame.setBacklight_makes hlevel frame
      exact .one hmade hturns .done rfl
    · rw [Frame.setBacklight_of_bright hlevel]
      exact .nothing

theorem painted_serves {fb : Framebuffer} {s : Session (Frame (Handle π))}
    (h : Fresh settings frame fb s) (hwidth : 1 ≤ frame.width) (hheight : 1 ≤ frame.height)
    {picture : Picture} (hfills : picture.Fills) (more : List String) :
    ∃ run, (do return finish (← push s picture) more : Checked (Run π)) = .ok run ∧
      Serves frame 0 [.blit ⟨0, 0, frame.width, frame.height⟩] run.bus := by
  obtain ⟨payload, fits, turns, outcome, s', -, hpush, hturns, hmade⟩ :=
    h.push_makes hwidth hheight (hfills.fits h.allocated)
  refine ⟨finish (.ofAnswer (panel frame) outcome.result, s') more, by rw [hpush]; rfl, ?_⟩
  rw [finish_bus_eq_drop]
  exact .one hmade hturns .done rfl

theorem clear_conducted (settings : Settings) {text : String} {color : Color}
    (hcolor : Color.ofHex? text = some color) (bus : Bus π) :
    Conducted settings bus (fun width height => [.blit ⟨0, 0, width, height⟩]) (fun _ _ => 0)
      (clear settings text bus) := by
  simp only [clear, hcolor]
  refine withSession_conducted ?_
  intro frame fb s hfresh hwidth hheight
  exact painted_serves hfresh hwidth hheight (fills_plain color) _

theorem paint_conducted {decode : Decoder} {files : Files} (hdecode : decode.Fills files)
    (settings : Settings) (path : String) (bus : Bus π) :
    Conducted settings bus (fun width height =>
        if (decode files path).isSome then [.blit ⟨0, 0, width, height⟩] else [])
      (fun _ _ => 0) (paint decode settings files path bus) := by
  refine withSession_conducted ?_
  intro frame fb s hfresh hwidth hheight
  cases hpicture : decode files path with
  | none =>
    refine ⟨_, rfl, ?_⟩
    rw [hfresh.session]
    exact .nothing
  | some picture => exact painted_serves hfresh hwidth hheight (hdecode path picture hpicture) []

section Watching

variable {decode : Decoder} {files : Files} {path : String} {s s' : Session (Frame (Handle π))}

theorem watchOnce_of_unloaded (h : decode files path = none) :
    watchOnce decode files path s = .ok s := by
  rw [watchOnce, h]

theorem watchOnce_of_pushed {picture : Picture} {outcome : Flush}
    (hpicture : decode files path = some picture) (h : push s picture = .ok (outcome, s')) :
    watchOnce decode files path s = .ok s' := by
  rw [watchOnce, hpicture]
  dsimp only
  rw [h]
  rfl

theorem watched_of_still (h : watchOnce decode files path s = .ok s) (looks : List Nat) :
    looks.foldlM (fun s _ => watchOnce decode files path s) s = .ok s := by
  induction looks with
  | nil => rfl
  | cons look looks ih =>
    rw [List.foldlM_cons, h]
    exact ih

theorem step_tried {x y w t : UInt32} {o : Option Flush}
    (h : Session.Step s (.update x y w t) o s') (wf : s.WellFormed) :
    ∃ turns, Usb.Dialogue s.screen.pipe turns s'.screen.pipe ∧
      ∀ count more, Tried count more → Tried (count + 1) (turns ++ more) := by
  cases h with
  | edit current span written => cases span
  | idle edit nothing => cases edit
  | early unallocated => exact ⟨[], rfl, fun _ _ htried => htried.succ⟩
  | clean current unchanged => exact ⟨[], rfl, fun _ _ htried => htried.succ⟩
  | @sent _ _ _ _ fb d answer screen current copied dirty blit =>
    have hd : d.WellFormed := copied ▸ Session.copied_wellFormed wf.display fb _
    obtain ⟨turns, result, -, hturns, hmade⟩ :=
      Frame.blit_makes (hd.picture_size dirty.rect_inside) s.screen
    have hscreen : (Frame.blit (d.picture d.dirty.rect) d.dirty.rect s.screen).2 = screen :=
      congrArg Prod.snd blit
    rw [hscreen] at hturns
    exact ⟨turns, hturns, fun _ _ htried => .blit hmade htried⟩

theorem watched_tried {picture : Picture} (hpicture : decode files path = some picture)
    (hfills : picture.Fills) (wf : s.WellFormed) {fb : Framebuffer} (hfb : s.framebuffer = some fb)
    (looks : List Nat) :
    ∃ s' more, looks.foldlM (fun s _ => watchOnce decode files path s) s = .ok s' ∧
      Usb.Dialogue s.screen.pipe more s'.screen.pipe ∧ Tried looks.length more := by
  induction looks generalizing s fb with
  | nil => exact ⟨s, [], rfl, rfl, .done⟩
  | cons look looks ih =>
    -- After a push the framebuffer is the picture, in a session that is well-formed again.
    rcases push_cases wf hfb picture with ⟨hmisfit, -⟩ | ⟨outcome, next, -, hpush, hdrawn, hstep⟩
    · exact absurd (hfills.fits (wf.framebuffer fb hfb)) hmisfit
    · have hshows := push_shows wf hfb hpush
      obtain ⟨turns, hturns, htry⟩ := step_tried hstep hdrawn
      obtain ⟨s', more, hrest, hmore, htried⟩ := ih hshows.wellFormed hshows.framebuffer
      refine ⟨s', turns ++ more, ?_, Usb.dialogue_append.2 ⟨_, hturns, hmore⟩, htry _ _ htried⟩
      rw [List.foldlM_cons, watchOnce_of_pushed hpicture hpush]
      exact hrest

theorem Fresh.watched {fb : Framebuffer} (h : Fresh settings frame fb s) (hwidth : 1 ≤ frame.width)
    (hheight : 1 ≤ frame.height) {picture : Picture} (hpicture : decode files path = some picture)
    (hfills : picture.Fills) (looks : Nat) :
    ∃ last, (List.range (looks + 1)).foldlM (fun s _ => watchOnce decode files path s) s =
        .ok last ∧
      Serves frame (if Covers settings frame.width frame.height then 0 else looks)
        [.blit ⟨0, 0, frame.width, frame.height⟩] last.screen.pipe.drop := by
  obtain ⟨payload, fits, turns, outcome, first, -, hpush, hturns, hmade⟩ :=
    h.push_makes hwidth hheight (hfills.fits h.allocated)
  have hfb : s.framebuffer = some fb := by rw [h.session]
  have hshows := push_shows h.wellFormed hfb hpush
  have hlater : ∃ last more, ((List.range looks).map Nat.succ).foldlM
      (fun s _ => watchOnce decode files path s) first = .ok last ∧
      Usb.Dialogue first.screen.pipe more last.screen.pipe ∧
      Tried (if Covers settings frame.width frame.height then 0 else looks) more := by
    -- On a canvas that covers the panel every later look finds its picture shown already.
    split_ifs with hcovers
    · have hagain := push_again h.wellFormed hfb hpush (h.onCanvas hcovers)
      have hstill := watched_of_still (watchOnce_of_pushed hpicture hagain)
      exact ⟨first, [], hstill _, rfl, .done⟩
    · obtain ⟨last, more, hlast, hmore, htried⟩ := watched_tried hpicture hfills
        hshows.wellFormed hshows.framebuffer ((List.range looks).map Nat.succ)
      rw [List.length_map, List.length_range] at htried
      exact ⟨last, more, hlast, hmore, htried⟩
  obtain ⟨last, more, hlast, hmore, htried⟩ := hlater
  refine ⟨last, ?_, .one hmade hturns htried hmore⟩
  rw [List.range_succ_eq_map, List.foldlM_cons, watchOnce_of_pushed hpicture hpush]
  exact hlast

theorem watch_conducted (hdecode : decode.Fills files) (settings : Settings) {interval : UInt64}
    (hinterval : interval ≠ 0) (looks : Nat) (bus : Bus π) :
    Conducted settings bus
      (fun width height => if (decode files path).isSome ∧ looks ≠ 0 then
        [.blit ⟨0, 0, width, height⟩] else [])
      (fun width height => if Covers settings width height then 0 else looks - 1)
      (watch decode settings files path interval looks bus) := by
  rw [watch, if_neg hinterval]
  refine withSession_conducted ?_
  intro frame fb s hfresh hwidth hheight
  have hwatched : ∃ last, (List.range looks).foldlM (fun s _ => watchOnce decode files path s) s =
      .ok last ∧ Serves frame (if Covers settings frame.width frame.height then 0 else looks - 1)
        (if (decode files path).isSome ∧ looks ≠ 0 then
          [.blit ⟨0, 0, frame.width, frame.height⟩] else []) last.screen.pipe.drop := by
    have hidle : s.screen = frame := by rw [hfresh.session]
    cases hpicture : decode files path with
    | none =>
      refine ⟨s, watched_of_still (watchOnce_of_unloaded hpicture) _, ?_⟩
      rw [hidle]
      exact .nothing
    | some picture =>
      cases looks with
      | zero =>
        refine ⟨s, rfl, ?_⟩
        rw [hidle]
        exact .nothing
      | succ looks =>
        exact hfresh.watched hwidth hheight hpicture (hdecode path picture hpicture) looks
  obtain ⟨last, hlast, hserves⟩ := hwatched
  refine ⟨.closing (Locator.close last.screen) [], by rw [hlast]; rfl, ?_⟩
  rw [closing_bus, Locator.close_eq_drop]
  exact hserves

end Watching

/-- What is wrong with an invocation can be told without the bus. -/
inductive Refused (files : Files) (i : Invocation) : Prop
  | settings {failure : Failure} (failed : settingsOf files i = .error failure)
  | color {text : String} (clears : i.command = .clear text)
      (malformed : Color.ofHex? text = none)
  | selector {loaded : Settings} (loads : settingsOf files { i with device := none } = .ok loaded)
      (uses : i.command ≠ .list)
      (malformed : ¬ ∃ index, Selector.Names (i.device.getD loaded.device) index)

section
variable (h : ¬ ∃ index, Selector.Names settings.device index) (bus : Bus π)
include h

theorem openFrame_of_malformed : openFrame settings bus =
    .error (.fail bus (.opening settings.device (.selector settings.device))) := by
  rw [openFrame, Locator.openFrame_of_unnamed h]

theorem withSession_of_malformed (next : Session (Frame (Handle π)) → Checked (Run π)) :
    withSession settings bus next =
      .fail bus (.opening settings.device (.selector settings.device)) :=
  withSession_of_error (openFrame_of_malformed h bus) next

theorem run_of_malformed (decode : Decoder) {files : Files} (looks : Nat) {i : Invocation}
    (hsettings : settingsOf files i = .ok settings) (huses : i.command ≠ .list) :
    ∃ failure, run decode files looks i bus = .fail bus failure ∧ failure.status = 1 := by
  simp only [run, hsettings]
  cases hcommand : i.command with
  | list => exact absurd hcommand huses
  | info =>
    refine ⟨.opening settings.device (.selector settings.device), ?_, rfl⟩
    simp only [info, openFrame_of_malformed h bus]
  | clear text =>
    cases hcolor : Color.ofHex? text with
    | none => exact ⟨.color text, by simp only [clear, hcolor], rfl⟩
    | some color =>
      refine ⟨.opening settings.device (.selector settings.device), ?_, rfl⟩
      simp only [clear, hcolor, withSession_of_malformed h bus]
  | paint path => exact ⟨_, withSession_of_malformed h bus _, rfl⟩
  | backlight level =>
    refine ⟨.opening settings.device (.selector settings.device), ?_, rfl⟩
    simp only [setBacklight, openFrame_of_malformed h bus]
  | watch path interval =>
    simp only [watch]
    split_ifs
    · exact ⟨_, rfl, rfl⟩
    · exact ⟨_, withSession_of_malformed h bus _, rfl⟩

end

theorem run_of_refused (decode : Decoder) {files : Files} (looks : Nat) {i : Invocation}
    (h : Refused files i) (bus : Bus π) :
    ∃ failure, run decode files looks i bus = .fail bus failure ∧ failure.status = 1 := by
  cases h with
  | @settings failure failed =>
    exact ⟨failure, by simp only [run, failed], status_of_settingsOf failed⟩
  | @color text clears malformed =>
    cases hsettings : settingsOf files i with
    | error failure =>
      exact ⟨failure, by simp only [run, hsettings], status_of_settingsOf hsettings⟩
    | ok settings =>
      exact ⟨.color text, by simp only [run, hsettings, clears, clear, malformed], rfl⟩
  | @selector loaded loads uses malformed =>
    have hsettings := settingsOf_device files i.config i.device i.command
    rw [loads] at hsettings
    exact run_of_malformed malformed bus decode looks hsettings uses

theorem list_heard (bus : Bus π) : Usb.Heard bus (list bus).bus [] := by
  obtain ⟨events, hrecorded, later, hidle⟩ := Locator.identities_events bus
  have hquiet := congrArg Usb.transfers hidle
  rw [Usb.transfers_append] at hquiet
  rw [list_bus]
  exact .silent hrecorded (List.append_eq_nil_iff.1 hquiet).1

theorem run_conducted {decode : Decoder} {files : Files} (hdecode : decode.Fills files)
    (looks : Nat) {i : Invocation} (hsettings : settingsOf files i = .ok settings)
    (huses : i.command ≠ .list) (hcolor : ∀ text, i.command = .clear text →
      Color.ofHex? text ≠ none)
    (hinterval : ∀ path interval, i.command = .watch path interval → interval ≠ some 0)
    (bus : Bus π) :
    Conducted settings bus (purpose decode files looks i.command)
      (further settings looks i.command) (run decode files looks i bus) := by
  simp only [run, hsettings]
  cases hcommand : i.command with
  | list => exact absurd hcommand huses
  | info => exact info_conducted settings bus
  | clear text =>
    obtain ⟨color, hcolor⟩ := Option.ne_none_iff_exists'.1 (hcolor text hcommand)
    exact clear_conducted settings hcolor bus
  | paint path => exact paint_conducted hdecode settings path bus
  | backlight level => exact setBacklight_conducted settings level bus
  | watch path interval =>
    refine watch_conducted hdecode settings ?_ looks bus
    cases interval with
    | none => exact watchInterval_ne_zero hsettings
    | some interval =>
      exact fun hzero => hinterval path _ hcommand (congrArg some hzero)

structure Sequenced (decode : Decoder) (files : Files) (looks : Nat) (command : Command)
    (settings : Settings) (status : Nat) (turns : List Turn) : Prop where
  list : command = .list → turns = []
  talk : command ≠ .list → Talk
    (fun width height => planned settings (purpose decode files looks command width height))
    (further settings looks command) turns
  wire : ∃ width height shown more, turns = shown ++ more ∧
    envelopes (shown.map Turn.call) <+: (Request.parameters ::
      planned settings (purpose decode files looks command width height)).map
        Request.envelope ∧
    Tried (further settings looks command width height) more
  once : (∀ path interval, command = .watch path interval → looks ≤ 1) →
    ∃ width height, envelopes (turns.map Turn.call) <+: (Request.parameters ::
      planned settings (purpose decode files looks command width height)).map
        Request.envelope
  complete : command ≠ .list → status = 0 → Complete
    (fun width height => planned settings (purpose decode files looks command width height)) turns
  bright : command ≠ .list → ∀ level, settings.backlight = some level →
    ¬ level ≤ Request.maxBrightness →
      status = 1 ∧ envelopes (turns.map Turn.call) <+: [Request.parameters.envelope]

theorem further_eq_zero {looks : Nat} {command : Command}
    (h : ∀ path interval, command = .watch path interval → looks ≤ 1) (width height : UInt16) :
    further settings looks command width height = 0 := by
  cases command with
  | watch path interval =>
    have hlooks := h path interval rfl
    dsimp only [further]
    split_ifs
    · rfl
    · omega
  | _ => rfl

theorem Conducted.sequenced {decode : Decoder} {files : Files} {looks : Nat} {command : Command}
    {run : Run π} (huses : command ≠ .list)
    (h : Conducted settings bus (purpose decode files looks command)
      (further settings looks command) run) :
    ∃ turns, Usb.Heard bus run.bus turns ∧
      Sequenced decode files looks command settings (Report.ofRun run).status turns := by
  obtain ⟨turns, hheard, htalk, hcomplete⟩ := h.heard
  refine ⟨turns, hheard, fun hlist => absurd hlist huses, fun _ => htalk, htalk.envelopes_prefix,
    fun honce => htalk.envelopes_prefix_of_single (further_eq_zero honce),
    fun _ hstatus => hcomplete (failure_of_status hstatus), ?_⟩
  intro _ level hlevel hbright
  obtain ⟨failure, hfailure, hstatus⟩ := h.bright level hlevel hbright
  refine ⟨?_, htalk.envelopes_prefix_of_unplanned fun _ _ => planned_of_bright hlevel hbright⟩
  rw [Report.ofRun, hfailure]
  exact hstatus

theorem run_sequenced {decode : Decoder} {files : Files} (hdecode : decode.Fills files)
    (looks : Nat) (bus : Bus π) {i : Invocation} (haccepted : ¬ Refused files i)
    (hinterval : ∀ path interval, i.command = .watch path interval → interval ≠ some 0) :
    ∃ settings turns, settingsOf files i = .ok settings ∧
      Usb.Heard bus (run decode files looks i bus).bus turns ∧
      Sequenced decode files looks i.command settings
        (Report.ofRun (run decode files looks i bus)).status turns := by
  cases hsettings : settingsOf files i with
  | error failure => exact absurd (.settings hsettings) haccepted
  | ok settings =>
    by_cases huses : i.command = .list
    · have hrun : run decode files looks i bus = list bus := by simp only [run, hsettings, huses]
      refine ⟨settings, [], rfl, hrun ▸ list_heard bus, ⟨fun _ => rfl, ?_, ?_, ?_, ?_, ?_⟩⟩
      · exact fun hother => absurd huses hother
      · exact ⟨0, 0, [], [], rfl, List.nil_prefix, .done⟩
      · exact fun _ => ⟨0, 0, List.nil_prefix⟩
      · exact fun hother => absurd huses hother
      · exact fun hother => absurd huses hother
    · have hcolor : ∀ text, i.command = .clear text → Color.ofHex? text ≠ none :=
        fun text hclear hnone => haccepted (.color hclear hnone)
      obtain ⟨turns, hheard, hsequenced⟩ :=
        (run_conducted hdecode looks hsettings huses hcolor hinterval bus).sequenced huses
      exact ⟨settings, turns, rfl, hheard, hsequenced⟩

/-- A command line that is refused fails with status one and leaves the bus as it is. From any other
the frame hears nothing but the query and what follows it in the plan of the command, one request
after another until the first that fails, and all of it if the command line succeeds. A watch that
goes on after its first look can add blits, but only where its canvas is smaller than the panel. -/
theorem command_sequence {decode : Decoder} {files : Files} (hdecode : decode.Fills files)
    (looks : Nat) (bus : Bus π) {args : List String} {i : Invocation}
    (hparse : parse args = some (.run i)) :
    (Refused files i → (runLineWith decode args files looks bus).1.status = 1 ∧
      (runLineWith decode args files looks bus).2 = bus) ∧
    (¬ Refused files i → ∃ settings turns, settingsOf files i = .ok settings ∧
      Usb.Heard bus (runLineWith decode args files looks bus).2 turns ∧
      Sequenced decode files looks i.command settings
        (runLineWith decode args files looks bus).1.status turns) := by
  have hline : runLineWith decode args files looks bus =
      (.ofRun (run decode files looks i bus), (run decode files looks i bus).bus) := by
    simp only [runLineWith, hparse]
  rw [hline]
  constructor
  · intro hrefused
    obtain ⟨failure, hrun, hstatus⟩ := run_of_refused decode looks hrefused bus
    rw [hrun]
    exact ⟨hstatus, rfl⟩
  · intro haccepted
    refine run_sequenced hdecode looks bus haccepted ?_
    intro path interval hcommand
    obtain ⟨config, device, command⟩ := i
    cases hcommand
    exact interval_ne_zero_of_parse hparse

def levelFile : Files := fun path =>
  if path = "level.toml" then .ok "backlight = 3".toUTF8.data else .error .missing

def mute : Bus Usb.Script where
  devices := [{ vendor := 0x1908, product := 0x0102, pipe := {} }]

theorem command_sequence_level :
    (runLineWith picture? ["clear", "--color", "red"] levelFile 1 mute).2 = mute ∧
    ∃ turns, Usb.Heard mute (runLineWith picture? ["-c", "level.toml", "info"] levelFile 1 mute).2
        turns ∧
      Sequenced picture? levelFile 1 .info { backlight := some 3 }
        (runLineWith picture? ["-c", "level.toml", "info"] levelFile 1 mute).1.status turns := by
  have hred := (command_sequence (fills_picture? levelFile) 1 mute
    (show parse ["clear", "--color", "red"] = some (.run ⟨none, none, .clear "red"⟩) by
      decide +kernel)).1 (.color rfl (by decide +kernel))
  obtain ⟨-, hinfo⟩ := command_sequence (fills_picture? levelFile) 1 mute
    (show parse ["-c", "level.toml", "info"] = some (.run ⟨some "level.toml", none, .info⟩) by
      decide +kernel)
  have hload : settingsOf levelFile ⟨some "level.toml", none, .info⟩ =
      .ok { backlight := some 3 } := by
    have hloaded : (settingsOf levelFile ⟨some "level.toml", none, .info⟩).toOption =
        some { backlight := some 3 } := by decide +kernel
    cases hsettings : settingsOf levelFile ⟨some "level.toml", none, .info⟩ with
    | error failure =>
      rw [hsettings] at hloaded
      cases hloaded
    | ok settings =>
      rw [hsettings] at hloaded
      exact congrArg _ (Option.some.inj hloaded)
  have haccepted : ¬ Refused levelFile ⟨some "level.toml", none, .info⟩ := by
    intro h
    cases h with
    | settings failed => cases failed.symm.trans hload
    | color clears malformed => cases clears
    | selector loads uses malformed =>
      cases loads.symm.trans hload
      exact malformed ⟨0, .inl (by decide +kernel)⟩
  obtain ⟨settings, turns, hsettings, hheard, hsequenced⟩ := hinfo haccepted
  cases hsettings.symm.trans hload
  exact ⟨hred.2, turns, hheard, hsequenced⟩

end CommandLine
end PictureFrame
