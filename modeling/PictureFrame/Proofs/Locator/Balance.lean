import PictureFrame.Proofs.Locator.Opening

set_option autoImplicit false

/-!
# What opening, using and closing a frame leaves on the record

A handle that was claimed owes one release and one closing, and whoever holds it can do no more than
transfer bytes. So the record of a bus on which a frame is looked for has one of four forms.
-/
namespace PictureFrame.Locator

open Usb (Bus Handle Attached Event)

variable {π : Type}

def releases (place : Nat) : Option Usb.Error → List Event
  | none => [.released place 0]
  | some _ => [.released place 0, .released place 0]

/-- What is done to a bus by someone who opens a device at most once, and closes it again. -/
inductive Balanced (devices : List (Attached π)) : List Event → Prop
  | unopened {events : List Event} (idle : events <+: [.context, .enumerate]) :
      Balanced devices events
  | refused {place : Nat} {device : Attached π} {cause : Usb.Error}
      (attached : devices[place]? = some device) (failed : device.openError = some cause) :
      Balanced devices [.context, .enumerate, .opened place]
  | unclaimed {place : Nat} {device : Attached π} {cause : Usb.Error}
      (attached : devices[place]? = some device) (opens : device.openError = none)
      (failed : device.claimError = some cause) :
      Balanced devices [.context, .enumerate, .opened place, .claimed place 0, .closed place]
  | used {place : Nat} {device : Attached π} (transfers : List Usb.Transfer)
      (attached : devices[place]? = some device) (opens : device.openError = none)
      (claims : device.claimError = none) :
      Balanced devices ([.context, .enumerate, .opened place, .claimed place 0] ++
        transfers.map (.bulk place) ++ releases place device.releaseError ++ [.closed place])

/-- The second bus is left by a user who has closed what was opened on the first. -/
def Leaves (bus after : Bus π) : Prop :=
  ∃ events, after.events = bus.events ++ events ∧ Balanced bus.devices events

/-- A handle whose device was opened and claimed on the bus, and to which nothing but transfers has
happened since. -/
structure Held (bus : Bus π) (handle : Handle π) : Prop where
  interface : handle.interface = 0
  claimed : handle.claimed = true
  owed : handle.owed = true
  attached : ∃ device, bus.devices[handle.index]? = some device ∧ device.openError = none ∧
    device.claimError = none ∧ device.releaseError = handle.device.releaseError
  events : ∃ transfers : List Usb.Transfer, handle.bus.events = bus.events ++
    ([.context, .enumerate, .opened handle.index, .claimed handle.index 0] ++
      transfers.map (.bulk handle.index))

variable {bus : Bus π} {handle : Handle π}

theorem listed_events (bus : Bus π) : (listed bus).events = bus.events ++ [.context, .enumerate] :=
  List.append_assoc _ _ _

theorem Found.attached {name : String} {place : Nat} {device : Attached π}
    (h : Found name bus place device) : bus.devices[place]? = some device := by
  obtain ⟨index, -, hselected⟩ := h.selected
  exact hselected.attached

theorem Found.held {name : String} {place : Nat} {device : Attached π}
    (h : Found name bus place device) (opens : device.openError = none)
    (claims : device.claimError = none) : Held bus (claimed bus place device) := by
  refine ⟨rfl, rfl, rfl, ⟨device, h.attached, opens, claims, rfl⟩, [], ?_⟩
  simp [Locator.claimed, listed, Bus.record]

theorem Held.transferred (h : Held bus handle) (transfer : Usb.Transfer) (pipe : π) :
    Held bus ({ handle with device.pipe := pipe }.record (.bulk handle.index transfer)) := by
  obtain ⟨transfers, hevents⟩ := h.events
  refine ⟨h.interface, h.claimed, h.owed, h.attached, transfers ++ [transfer], ?_⟩
  change handle.bus.events ++ [.bulk handle.index transfer] = _
  rw [hevents, List.map_append]
  simp only [List.append_assoc]
  rfl

theorem Held.drop_events (h : Held bus handle) : handle.drop.events =
    handle.bus.events ++ releases handle.index handle.device.releaseError ++
      [.closed handle.index] := by
  -- The release that was owed comes first; closing makes another one if that one failed.
  obtain ⟨hinterface, hclaimed, howed, -, -⟩ := h
  obtain ⟨now, index, device, interface, claimed, owed⟩ := handle
  cases hinterface
  cases hclaimed
  cases howed
  simp only [Handle.drop, Handle.release, Handle.unclaim, Handle.close, Handle.record, if_true]
  cases hrelease : device.releaseError with
  | none => simp [releases, Bus.record]
  | some cause => simp [releases, Bus.record, hrelease]

theorem Held.drop (h : Held bus handle) : Leaves bus handle.drop := by
  obtain ⟨device, hattached, hopens, hclaims, hreleases⟩ := h.attached
  obtain ⟨transfers, hevents⟩ := h.events
  refine ⟨_, ?_, .used transfers hattached hopens hclaims⟩
  rw [h.drop_events, hevents, hreleases]
  simp only [List.append_assoc]

theorem unclaim_owed (handle : Handle π) : handle.unclaim.2.owed = handle.owed := by
  simp only [Handle.unclaim]
  split <;> rfl

theorem release_release (handle : Handle π) : handle.release.2.release.2 = handle.release.2 := by
  have hpaid : ¬ handle.release.2.owed = true := by
    rw [Handle.release]
    split_ifs with howed
    · rw [unclaim_owed]
      exact Bool.false_ne_true
    · exact howed
  rw [Handle.release, if_neg hpaid]

theorem close_eq_drop (frame : Frame (Handle π)) : (close frame).2 = frame.pipe.drop :=
  congrArg Handle.close (release_release frame.pipe)

theorem Held.close {frame : Frame (Handle π)} (h : Held bus frame.pipe) :
    Leaves bus (close frame).2 := by
  rw [close_eq_drop]
  exact h.drop

theorem identities_events (bus : Bus π) : ∃ events,
    (identities bus).2.events = bus.events ++ events ∧ events <+: [.context, .enumerate] := by
  cases hcontext : bus.contextError with
  | some cause =>
    rw [identities_of_context hcontext]
    exact ⟨[.context], rfl, [.enumerate], rfl⟩
  | none =>
    refine ⟨[.context, .enumerate], ?_, List.prefix_rfl⟩
    cases hlist : bus.listError with
    | some cause =>
      rw [identities_of_list hcontext hlist]
      exact listed_events bus
    | none =>
      rw [identities_of_listed hcontext hlist]
      exact listed_events bus

theorem count_leaves (bus : Bus π) : Leaves bus (count bus).2 := by
  obtain ⟨events, hrecorded, idle⟩ := identities_events bus
  exact ⟨events, hrecorded, .unopened idle⟩

variable [Usb.Pipe π]

theorem Held.reaches (h : Held bus handle) {handle' : Handle π} (hr : Usb.Reaches handle handle') :
    Held bus handle' := by
  obtain ⟨turns, hturns⟩ := hr
  -- Every call of the dialogue adds one transfer to the record.
  induction turns generalizing handle with
  | nil =>
    cases hturns
    exact h
  | cons turn turns ih =>
    cases turn with
    | wrote endpoint timeout bytes answer => exact ih (h.transferred _ _) hturns.2
    | read endpoint timeout room answer => exact ih (h.transferred _ _) hturns.2

variable {name : String}

theorem Opening.held {frame : Frame (Handle π)} (h : Opening name bus (.ok frame)) :
    Held bus frame.pipe := by
  cases h with
  | opened found opens claims sized => exact (found.held opens claims).reaches sized.reaches_frame

theorem Opening.leaves {fault : Fault} {after : Bus π}
    (h : Opening name bus (.error (fault, after))) : Leaves bus after := by
  cases h with
  | unnamed invalid => exact ⟨[], (List.append_nil _).symm, .unopened List.nil_prefix⟩
  | unusable valid failed => exact ⟨[.context], rfl, .unopened ⟨[.enumerate], rfl⟩⟩
  | unlisted | unread | missing =>
    exact ⟨[.context, .enumerate], listed_events bus, .unopened List.prefix_rfl⟩
  | refused found failed =>
    refine ⟨_, ?_, .refused found.attached failed⟩
    simp [listed, Bus.record]
  | unclaimed found opens failed =>
    refine ⟨_, ?_, .unclaimed found.attached opens failed⟩
    simp [listed, Bus.record]
  | unsized found opens claims sized =>
    exact ((found.held opens claims).reaches sized.reaches_pipe).drop

theorem openFrame_held {frame : Frame (Handle π)} (h : openFrame name bus = .ok frame) :
    Held bus frame.pipe :=
  (h ▸ opening_openFrame name bus).held

theorem openFrame_leaves {fault : Fault} {after : Bus π}
    (h : openFrame name bus = .error (fault, after)) : Leaves bus after :=
  (h ▸ opening_openFrame name bus).leaves

inductive Ending
  | close
  | drop

def Ending.apply : Ending → Frame (Handle π) → Bus π
  | .close, frame => (Locator.close frame).2
  | .drop, frame => frame.pipe.drop

/-- The bus after a client has opened a frame, used it and is done with it. -/
def visit (name : String) (ops : List Frame.Op) (ending : Ending) (bus : Bus π) : Bus π :=
  match openFrame name bus with
  | .error (_, after) => after
  | .ok frame => ending.apply (Frame.run ops frame).2

theorem visit_leaves (name : String) (ops : List Frame.Op) (ending : Ending) (bus : Bus π) :
    Leaves bus (visit name ops ending bus) := by
  rw [visit]
  rcases hopen : openFrame name bus with ⟨fault, after⟩ | frame
  · exact openFrame_leaves hopen
  · have held := (openFrame_held hopen).reaches (Frame.run_reaches ops frame)
    cases ending with
    | close => exact held.close
    | drop => exact held.drop

end PictureFrame.Locator
