import PictureFrame.Proofs.CommandLine.Balance
import PictureFrame.Proofs.Frame.Course

set_option autoImplicit false

namespace PictureFrame

namespace Usb

def transfers (events : List Event) : List (Nat × Transfer) :=
  events.filterMap fun
    | .bulk place transfer => some (place, transfer)
    | _ => none

theorem transfers_append (first second : List Event) :
    transfers (first ++ second) = transfers first ++ transfers second :=
  List.filterMap_append

theorem transfers_bulk (place : Nat) (turns : List Turn) :
    transfers (turns.map fun turn => .bulk place turn.call) =
      turns.map fun turn => (place, turn.call) := by
  induction turns with
  | nil => rfl
  | cons turn turns ih => exact congrArg ((place, turn.call) :: ·) ih

variable {π : Type} [Pipe π]

/-- What the second bus has on its record and the first has not, as turns with a device of the first
bus. -/
inductive Heard (bus after : Bus π) : List Turn → Prop
  | silent {events : List Event} (recorded : after.events = bus.events ++ events)
      (nothing : transfers events = []) : Heard bus after []
  | talked {events : List Event} {place : Nat} {device : Attached π} {pipe : π} {turns : List Turn}
      (recorded : after.events = bus.events ++ events)
      (attached : bus.devices[place]? = some device)
      (calls : transfers events = turns.map fun turn => (place, turn.call))
      (answers : Dialogue device.pipe turns pipe) : Heard bus after turns

def Handle.after (handle : Handle π) (turns : List Turn) (pipe : π) : Handle π :=
  { handle with
    bus := { handle.bus with
      events := handle.bus.events ++ turns.map fun turn => .bulk handle.index turn.call }
    device := { handle.device with pipe } }

omit [Pipe π] in
theorem Handle.after_nil (handle : Handle π) : handle.after [] handle.device.pipe = handle := by
  rw [Handle.after, List.map_nil, List.append_nil]

omit [Pipe π] in
theorem Handle.after_cons (handle : Handle π) (turn : Turn) (turns : List Turn) (next pipe : π) :
    ({ handle with device.pipe := next }.record (.bulk handle.index turn.call)).after turns pipe =
      handle.after (turn :: turns) pipe := by
  simp only [Handle.after, Handle.record, Bus.record, List.map_cons, List.append_assoc,
    List.singleton_append]

/-- A dialogue with a handle is one with the pipe of its device, and nothing else of it changes but
the record. -/
theorem dialogue_handle_iff {turns : List Turn} {handle handle' : Handle π} :
    Dialogue handle turns handle' ↔
      ∃ pipe, Dialogue handle.device.pipe turns pipe ∧ handle' = handle.after turns pipe := by
  induction turns generalizing handle with
  | nil => simp [Dialogue, Handle.after_nil]
  | cons turn turns ih =>
    cases turn with
    | wrote endpoint timeout bytes answer =>
      have hstep := handle.after_cons (.wrote endpoint timeout bytes answer) turns
        (Pipe.write endpoint timeout bytes handle.device.pipe).2
      simp only [Dialogue, ih, ← hstep, and_assoc, exists_and_left]
      rfl
    | read endpoint timeout room answer =>
      have hstep := handle.after_cons (.read endpoint timeout room answer) turns
        (Pipe.read endpoint timeout room handle.device.pipe).2
      simp only [Dialogue, ih, ← hstep, and_assoc, exists_and_left]
      rfl

theorem dialogue_handle {turns : List Turn} {handle handle' : Handle π}
    (h : Dialogue handle turns handle') : handle'.index = handle.index ∧
      Dialogue handle.device.pipe turns handle'.device.pipe ∧
      handle'.bus.events = handle.bus.events ++ turns.map fun turn =>
        .bulk handle.index turn.call := by
  obtain ⟨pipe, hpipe, rfl⟩ := dialogue_handle_iff.1 h
  exact ⟨rfl, hpipe, rfl⟩

end Usb

namespace Locator

open Usb (Bus Handle Attached Turn)

variable {π : Type} [Usb.Pipe π] {name : String} {bus : Bus π} {handle handle' : Handle π}
variable {turns more : List Turn}

def Talked (name : String) (bus : Bus π) (handle : Handle π) (turns : List Turn) : Prop :=
  ∃ place device, Found name bus place device ∧ device.openError = none ∧
    device.claimError = none ∧ Usb.Dialogue (claimed bus place device) turns handle

theorem Talked.append (h : Talked name bus handle turns)
    (hmore : Usb.Dialogue handle more handle') : Talked name bus handle' (turns ++ more) := by
  obtain ⟨place, device, found, opens, claims, hturns⟩ := h
  exact ⟨place, device, found, opens, claims, Usb.dialogue_append.2 ⟨handle, hturns, hmore⟩⟩

theorem Talked.heard_drop (h : Talked name bus handle turns) : Usb.Heard bus handle.drop turns := by
  obtain ⟨place, device, found, opens, claims, hturns⟩ := h
  have held := (found.held opens claims).reaches ⟨turns, hturns⟩
  obtain ⟨-, hanswers, hevents⟩ := Usb.dialogue_handle hturns
  have hrecorded : handle.drop.events = bus.events ++ ([.context, .enumerate, .opened place,
      .claimed place 0] ++ (turns.map fun turn => .bulk place turn.call) ++
        (releases handle.index handle.device.releaseError ++ [.closed handle.index])) := by
    rw [held.drop_events, hevents]
    simp [claimed, listed, Bus.record]
  have hquiet : Usb.transfers
      (releases handle.index handle.device.releaseError ++ [.closed handle.index]) = [] := by
    cases handle.device.releaseError <;> rfl
  refine .talked hrecorded found.attached ?_ hanswers
  rw [Usb.transfers_append, Usb.transfers_append, Usb.transfers_bulk, hquiet, List.append_nil]
  rfl

theorem Opening.heard {fault : Fault} {after : Bus π}
    (h : Opening name bus (.error (fault, after))) :
    ∃ turns, Usb.Heard bus after turns ∧ ∀ plan further, Talk plan further turns := by
  cases h with
  | unnamed invalid =>
    exact ⟨[], .silent (List.append_nil _).symm rfl, fun _ _ => .silent⟩
  | unusable valid failed => exact ⟨[], .silent rfl rfl, fun _ _ => .silent⟩
  | unlisted | unread | missing =>
    exact ⟨[], .silent (listed_events bus) rfl, fun _ _ => .silent⟩
  | @refused place device cause found failed =>
    have hrecorded : (listed bus).events ++ [.opened place] =
        bus.events ++ [.context, .enumerate, .opened place] := by
      simp [listed, Bus.record]
    exact ⟨[], .silent hrecorded rfl, fun _ _ => .silent⟩
  | @unclaimed place device cause found opens failed =>
    have hrecorded : (((listed bus).record (.opened place)).record (.claimed place 0)).events ++
        [.closed place] = bus.events ++
          [.context, .enumerate, .opened place, .claimed place 0, .closed place] := by
      simp [listed, Bus.record]
    exact ⟨[], .silent hrecorded rfl, fun _ _ => .silent⟩
  | unsized found opens claims sized =>
    cases sized with
    | @unanswered _ turns fault dialogue queried =>
      have htalked : Talked name bus _ turns := ⟨_, _, found, opens, claims, dialogue⟩
      exact ⟨turns, htalked.heard_drop, fun _ _ => .unanswered queried⟩
    | @flat _ turns b0 b1 b2 b3 b4 width height dialogue queried columns rows zero =>
      have htalked : Talked name bus _ turns := ⟨_, _, found, opens, claims, dialogue⟩
      exact ⟨turns, htalked.heard_drop,
        fun _ _ => .flat ⟨b0, b1, b2, b3, b4, queried, columns, rows⟩ zero⟩

theorem Opening.talked {frame : Frame (Handle π)} (h : Opening name bus (.ok frame)) :
    ∃ turns, Talked name bus frame.pipe turns ∧ Frame.Reported turns frame.width frame.height ∧
      1 ≤ frame.width ∧ 1 ≤ frame.height := by
  cases h with
  | opened found opens claims sized =>
    cases sized with
    | @sized _ turns b0 b1 b2 b3 b4 width height dialogue queried columns rows positive =>
      exact ⟨turns, ⟨_, _, found, opens, claims, dialogue⟩,
        ⟨b0, b1, b2, b3, b4, queried, columns, rows⟩, positive⟩

end Locator

namespace CommandLine

open Usb (Bus Handle Turn)

variable {π : Type} [Usb.Pipe π] {settings : Settings} {bus : Bus π} {frame : Frame (Handle π)}

/-- The frame was opened, and the level of the settings was set, if there is one. -/
structure Lit (settings : Settings) (bus : Bus π) (frame : Frame (Handle π))
    (query lighting : List Turn) : Prop where
  talked : Locator.Talked settings.device bus frame.pipe (query ++ lighting)
  reported : Frame.Reported query frame.width frame.height
  width_pos : 1 ≤ frame.width
  height_pos : 1 ≤ frame.height
  level : ∀ level, settings.backlight = some level → level ≤ Request.maxBrightness
  follows : Follows (settings.backlight.toList.map Task.brightness) lighting (.ok ())

/-- The requests of a command with that purpose, after the query. No level above seven is sent, and
nothing is sent in its place. -/
def planned (settings : Settings) (purpose : List Request) : List Request :=
  match settings.backlight with
  | none => purpose
  | some level => if level ≤ Request.maxBrightness then .brightness level :: purpose else []

theorem planned_of_none {purpose : List Request} (h : settings.backlight = none) :
    planned settings purpose = purpose := by
  rw [planned, h]

theorem planned_of_level {purpose : List Request} {level : UInt16}
    (h : settings.backlight = some level) (hlevel : level ≤ Request.maxBrightness) :
    planned settings purpose = .brightness level :: purpose := by
  rw [planned, h]
  exact if_pos hlevel

theorem planned_of_bright {purpose : List Request} {level : UInt16}
    (h : settings.backlight = some level) (hlevel : ¬ level ≤ Request.maxBrightness) :
    planned settings purpose = [] := by
  rw [planned, h]
  exact if_neg hlevel

theorem Lit.planned_eq {query lighting : List Turn} (h : Lit settings bus frame query lighting)
    (purpose : List Request) : planned settings purpose =
      (settings.backlight.toList.map Task.brightness).map Task.request ++ purpose := by
  cases hbacklight : settings.backlight with
  | none => exact planned_of_none hbacklight
  | some level => exact planned_of_level hbacklight (h.level level hbacklight)

/-- A command that gets no frame ends with status one. -/
structure Unlit (settings : Settings) (bus : Bus π) (run : Run π) : Prop where
  failed : ∃ failure, run.failure = some failure ∧ failure.status = 1
  heard : ∃ turns, Usb.Heard bus run.bus turns ∧
    ∀ (purpose : UInt16 → UInt16 → List Request) (further : UInt16 → UInt16 → Nat),
      Talk (fun width height => planned settings (purpose width height)) further turns

def light (settings : Settings) (frame : Frame (Handle π)) : Except (Run π) (Frame (Handle π)) :=
  match settings.backlight with
  | none => .ok frame
  | some level =>
    match Frame.setBacklight level frame with
    | (.ok _, frame) => .ok frame
    | (.error fault, frame) => .error (.fail frame.pipe.drop (.backlight fault))

theorem light_of_none (h : settings.backlight = none) : light settings frame = .ok frame := by
  rw [light, h]

theorem light_of_set {level : UInt16} {lit : Frame (Handle π)} {code : UInt8}
    (h : settings.backlight = some level)
    (hset : Frame.setBacklight level frame = (.ok code, lit)) : light settings frame = .ok lit := by
  rw [light, h]
  simp only [hset]

theorem light_of_fault {level : UInt16} {lit : Frame (Handle π)} {fault : Fault}
    (h : settings.backlight = some level)
    (hset : Frame.setBacklight level frame = (.error fault, lit)) :
    light settings frame = .error (.fail lit.pipe.drop (.backlight fault)) := by
  rw [light, h]
  simp only [hset]

theorem light_cases {query : List Turn}
    (talked : Locator.Talked settings.device bus frame.pipe query)
    (reported : Frame.Reported query frame.width frame.height) (hwidth : 1 ≤ frame.width)
    (hheight : 1 ≤ frame.height) :
    (∃ run, light settings frame = .error run ∧ Unlit settings bus run) ∨
    ∃ lit lighting, light settings frame = .ok lit ∧ Lit settings bus lit query lighting := by
  cases hbacklight : settings.backlight with
  | none =>
    refine .inr ⟨frame, [], light_of_none hbacklight, ?_, reported, hwidth, hheight, ?_, ?_⟩
    · rwa [List.append_nil]
    · intro level hlevel
      cases hbacklight.symm.trans hlevel
    · rw [hbacklight]
      exact .done
  | some level =>
    by_cases hlevel : level ≤ Request.maxBrightness
    · obtain ⟨turns, ⟨fault | code, buffer⟩, hset, hturns, hmade⟩ :=
        Frame.setBacklight_makes hlevel frame
      · refine .inl ⟨_, light_of_fault hbacklight hset, ⟨_, rfl, rfl⟩, query ++ turns,
          (talked.append hturns).heard_drop, ?_⟩
        intro purpose further
        -- The plan ends with the fault, so the tasks after it can be any.
        obtain ⟨tasks, htasks⟩ := exists_tasks (purpose frame.width frame.height)
        have hfollows : Follows (.brightness level :: tasks) turns (.error fault) := .failed hmade
        refine .sized reported ⟨hwidth, hheight⟩ ?_ hfollows
        rw [List.map_cons, htasks]
        exact (planned_of_level hbacklight hlevel).symm
      · refine .inr ⟨_, turns, light_of_set hbacklight hset, talked.append hturns, reported,
          hwidth, hheight, ?_, ?_⟩
        · intro other hother
          cases hbacklight.symm.trans hother
          exact hlevel
        · rw [hbacklight]
          exact Follows.single hmade
    · refine .inl ⟨_, light_of_fault hbacklight (Frame.setBacklight_of_bright hlevel frame),
        ⟨_, rfl, rfl⟩, query, talked.heard_drop, ?_⟩
      intro purpose further
      rw [← List.append_nil query]
      refine .sized reported ⟨hwidth, hheight⟩ ?_ .done
      exact (planned_of_bright hbacklight hlevel).symm

theorem openFrame_of_opened (h : Locator.openFrame settings.device bus = .ok frame) :
    openFrame settings bus = light settings frame := by
  rw [openFrame, h]
  rfl

theorem Lit.openFrame_eq {query lighting : List Turn} (h : Lit settings bus frame query lighting) :
    openFrame settings bus = .ok frame := by
  obtain ⟨place, device, found, opens, claims, hturns⟩ := h.talked
  obtain ⟨handle, hquery, hlighting⟩ := Usb.dialogue_append.1 hturns
  obtain ⟨b0, b1, b2, b3, b4, queried, columns, rows⟩ := h.reported
  have hopened : Locator.openFrame settings.device bus = .ok ⟨handle, frame.width, frame.height⟩ :=
    Locator.Opening.openFrame_eq (.opened found opens claims
      (.sized hquery queried columns rows ⟨h.width_pos, h.height_pos⟩))
  rw [openFrame_of_opened hopened]
  have hfollows := h.follows
  cases hbacklight : settings.backlight with
  | none =>
    rw [hbacklight] at hfollows
    rw [hfollows.turns_eq_nil] at hlighting
    cases hlighting
    exact light_of_none hbacklight
  | some level =>
    rw [hbacklight] at hfollows
    obtain ⟨code, buffer, hmade⟩ := hfollows.makes_of_single
    have hrun : Exchange.run (Request.brightness level).block .none handle =
        (⟨.ok code, buffer⟩, frame.pipe) := Exchange.Conforms.run_eq hmade hlighting
    have hset : Frame.setBacklight level ⟨handle, frame.width, frame.height⟩ = (.ok code, frame) := by
      rw [Frame.setBacklight_eq (h.level level hbacklight), hrun]
    exact light_of_set hbacklight hset

theorem openFrame_cases (settings : Settings) (bus : Bus π) :
    (∃ run, openFrame settings bus = .error run ∧ Unlit settings bus run) ∨
    ∃ frame query lighting, openFrame settings bus = .ok frame ∧
      Lit settings bus frame query lighting := by
  have hopening := Locator.opening_openFrame settings.device bus
  cases hopen : Locator.openFrame settings.device bus with
  | error failed =>
    obtain ⟨fault, after⟩ := failed
    rw [hopen] at hopening
    obtain ⟨turns, hheard, htalk⟩ := hopening.heard
    refine .inl ⟨_, by rw [openFrame, hopen], ⟨_, rfl, rfl⟩, turns, hheard, fun _ _ => htalk _ _⟩
  | ok frame =>
    rw [hopen] at hopening
    obtain ⟨query, talked, reported, hwidth, hheight⟩ := hopening.talked
    rw [openFrame_of_opened hopen]
    rcases light_cases talked reported hwidth hheight with hunlit | ⟨lit, lighting, hlit⟩
    · exact .inl hunlit
    · exact .inr ⟨lit, query, lighting, hlit⟩

end CommandLine
end PictureFrame
