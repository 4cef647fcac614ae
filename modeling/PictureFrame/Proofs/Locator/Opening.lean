import PictureFrame.Proofs.Frame
import PictureFrame.Proofs.Locator.Search
import PictureFrame.Proofs.Selector

set_option autoImplicit false

/-!
# Opening a frame by its name

The steps of opening come in a fixed order, and the first one that cannot be done decides what is
reported: the name, the bus, the list of devices, the descriptors, the frame itself, its opening,
the claim and the query for the panel's size. `Opening` has one case for each, with the bus as it is
left.
-/
namespace PictureFrame.Locator

open Usb (Bus Handle Attached)

variable {π : Type}

def claimed (bus : Bus π) (place : Nat) (device : Attached π) : Handle π where
  bus := ((listed bus).record (.opened place)).record (.claimed place 0)
  index := place
  device := device
  interface := 0
  claimed := true
  owed := true

/-- The device at a place is the one that a text names. -/
structure Found (name : String) (bus : Bus π) (place : Nat) (device : Attached π) : Prop where
  readable : Readable bus
  selected : ∃ index, Selector.Names name index ∧ Selected bus.devices index place device

variable {name : String} {bus : Bus π} {place : Nat} {device : Attached π}

theorem acquire_of_refused {cause : Usb.Error}
    (h : device.openError = some cause) : Handle.acquire bus place device frameInterface =
      .error (cause, bus.record (.opened place)) := by
  simp only [Handle.acquire, h]

theorem acquire_of_unclaimed {cause : Usb.Error}
    (opens : device.openError = none) (h : device.claimError = some cause) :
    Handle.acquire bus place device frameInterface =
      .error (cause, ((bus.record (.opened place)).record (.claimed place 0)).record
        (.closed place)) := by
  simp only [Handle.acquire, opens, h]
  rfl

theorem acquire_of_claimed (opens : device.openError = none)
    (claims : device.claimError = none) :
    Handle.acquire (listed bus) place device frameInterface = .ok (claimed bus place device) := by
  simp only [Handle.acquire, opens, claims]
  rfl

theorem warning_of_missing {index : Fin 10} (named : Selector.Names name index)
    (readable : Readable bus) (few : frames bus.devices ≤ index) :
    warning name bus = some ("No matching USB device '" ++ name ++ "' found") := by
  have hlisted : bus.enumerate.1 = .ok bus.devices := by
    have hcontext : (bus.record .context).contextError = none := readable.context
    have hlist : ((bus.record .context).record .enumerate).listError = none := readable.list
    simp only [Bus.enumerate, hcontext, hlist]
    rfl
  simp only [warning, named.parse_eq, hlisted, Except.toOption, Option.bind_eq_bind,
    Option.bind_some, mapM_identity_of_readable readable.descriptors, nth_eq_error few]
  rfl

variable [Usb.Pipe π]

/-- How opening ends, and the bus that is handed back with a fault. -/
inductive Opening (name : String) (bus : Bus π) :
    Except (Fault × Bus π) (Frame (Handle π)) → Prop
  | unnamed (invalid : ¬ ∃ index, Selector.Names name index) :
      Opening name bus (.error (.selector name, bus))
  | unusable {cause : Usb.Error} (valid : ∃ index, Selector.Names name index)
      (failed : bus.contextError = some cause) :
      Opening name bus (.error (.usb cause, bus.record .context))
  | unlisted {cause : Usb.Error} (valid : ∃ index, Selector.Names name index)
      (context : bus.contextError = none) (failed : bus.listError = some cause) :
      Opening name bus (.error (.usb cause, listed bus))
  | unread {before after : List (Attached π)} {device : Attached π} {cause : Usb.Error}
      (valid : ∃ index, Selector.Names name index) (context : bus.contextError = none)
      (list : bus.listError = none) (devices : bus.devices = before ++ device :: after)
      (earlier : ∀ d ∈ before, d.descriptorError = none)
      (failed : device.descriptorError = some cause) :
      Opening name bus (.error (.usb cause, listed bus))
  | missing {index : Fin 10} (named : Selector.Names name index) (readable : Readable bus)
      (few : frames bus.devices ≤ index) :
      Opening name bus (.error (.notFound name (frames bus.devices), listed bus))
  | refused {place : Nat} {device : Attached π} {cause : Usb.Error}
      (found : Found name bus place device) (failed : device.openError = some cause) :
      Opening name bus (.error (.usb cause, (listed bus).record (.opened place)))
  | unclaimed {place : Nat} {device : Attached π} {cause : Usb.Error}
      (found : Found name bus place device) (opens : device.openError = none)
      (failed : device.claimError = some cause) :
      Opening name bus (.error (.usb cause, (((listed bus).record (.opened place)).record
        (.claimed place 0)).record (.closed place)))
  | unsized {place : Nat} {device : Attached π} {fault : Fault} {handle : Handle π}
      (found : Found name bus place device) (opens : device.openError = none)
      (claims : device.claimError = none)
      (sized : Frame.Sized (claimed bus place device) (.error (fault, handle))) :
      Opening name bus (.error (fault, handle.drop))
  | opened {place : Nat} {device : Attached π} {frame : Frame (Handle π)}
      (found : Found name bus place device) (opens : device.openError = none)
      (claims : device.claimError = none)
      (sized : Frame.Sized (claimed bus place device) (.ok frame)) : Opening name bus (.ok frame)

theorem openFrame_of_unnamed (h : ¬ ∃ index, Selector.Names name index) :
    openFrame name bus = .error (.selector name, bus) := by
  simp only [openFrame, Selector.parse_eq_error h]

theorem openFrame_of_unidentified (valid : ∃ index, Selector.Names name index) {fault : Fault}
    {after : Bus π} (h : identities bus = (.error fault, after)) :
    openFrame name bus = .error (fault, after) := by
  obtain ⟨index, hindex⟩ := valid
  simp only [openFrame, hindex.parse_eq, h]

theorem openFrame_of_missing {index : Fin 10} (named : Selector.Names name index)
    (readable : Readable bus) (few : frames bus.devices ≤ index) :
    openFrame name bus = .error (.notFound name (frames bus.devices), listed bus) := by
  simp only [openFrame, named.parse_eq, readable.identities_eq, nth_eq_error few]

theorem Found.openFrame_of_unacquired (h : Found name bus place device) {cause : Usb.Error}
    {after : Bus π}
    (ha : Handle.acquire (listed bus) place device frameInterface = .error (cause, after)) :
    openFrame name bus = .error (.usb cause, after) := by
  obtain ⟨index, hnamed, hselected⟩ := h.selected
  simp only [openFrame, hnamed.parse_eq, h.readable.identities_eq, hselected.nth_eq,
    hselected.attached, ha]

theorem Found.openFrame_of_claimed (h : Found name bus place device)
    (opens : device.openError = none) (claims : device.claimError = none) :
    openFrame name bus = (Frame.ofPipe (claimed bus place device)).mapError fun failed =>
      (failed.1, failed.2.drop) := by
  obtain ⟨index, hnamed, hselected⟩ := h.selected
  simp only [openFrame, hnamed.parse_eq, h.readable.identities_eq, hselected.nth_eq,
    hselected.attached, acquire_of_claimed opens claims]
  rcases Frame.ofPipe (claimed bus place device) with ⟨fault, handle⟩ | frame <;> rfl

theorem Opening.openFrame_eq {r : Except (Fault × Bus π) (Frame (Handle π))}
    (h : Opening name bus r) : openFrame name bus = r := by
  cases h with
  | unnamed invalid => exact openFrame_of_unnamed invalid
  | unusable valid failed =>
    exact openFrame_of_unidentified valid (identities_of_context failed)
  | unlisted valid context failed =>
    exact openFrame_of_unidentified valid (identities_of_list context failed)
  | unread valid context list devices earlier failed =>
    exact openFrame_of_unidentified valid
      (identities_of_unread context list devices earlier failed)
  | missing named readable few => exact openFrame_of_missing named readable few
  | refused found failed => exact found.openFrame_of_unacquired (acquire_of_refused failed)
  | unclaimed found opens failed =>
    exact found.openFrame_of_unacquired (acquire_of_unclaimed opens failed)
  | unsized found opens claims sized =>
    rw [found.openFrame_of_claimed opens claims, Frame.ofPipe_eq_iff.2 sized]
    rfl
  | opened found opens claims sized =>
    rw [found.openFrame_of_claimed opens claims, Frame.ofPipe_eq_iff.2 sized]
    rfl

theorem Found.exists_opening (h : Found name bus place device) : ∃ r, Opening name bus r := by
  cases hopen : device.openError with
  | some cause => exact ⟨_, .refused h hopen⟩
  | none =>
    cases hclaim : device.claimError with
    | some cause => exact ⟨_, .unclaimed h hopen hclaim⟩
    | none =>
      have hsized := Frame.sized_ofPipe (claimed bus place device)
      rcases hpipe : Frame.ofPipe (claimed bus place device) with ⟨fault, handle⟩ | frame
      · exact ⟨_, .unsized h hopen hclaim (hpipe ▸ hsized)⟩
      · exact ⟨_, .opened h hopen hclaim (hpipe ▸ hsized)⟩

theorem exists_opening (name : String) (bus : Bus π) : ∃ r, Opening name bus r := by
  -- The steps in their order: each one is passed, or the opening ends with it.
  by_cases hvalid : ∃ index, Selector.Names name index
  · cases reading bus with
    | unusable failed => exact ⟨_, .unusable hvalid failed⟩
    | unlisted context failed => exact ⟨_, .unlisted hvalid context failed⟩
    | unread context list devices earlier failed =>
      exact ⟨_, .unread hvalid context list devices earlier failed⟩
    | readable all =>
      obtain ⟨index, hindex⟩ := hvalid
      rcases Nat.lt_or_ge index.val (frames bus.devices) with hfound | hfew
      · obtain ⟨place, device, hselected⟩ := exists_selected hfound
        exact Found.exists_opening ⟨all, index, hindex, hselected⟩
      · exact ⟨_, .missing hindex all hfew⟩
  · exact ⟨_, .unnamed hvalid⟩

theorem opening_openFrame (name : String) (bus : Bus π) :
    Opening name bus (openFrame name bus) := by
  obtain ⟨r, hr⟩ := exists_opening name bus
  rwa [hr.openFrame_eq]

def Fails (name : String) (bus : Bus π) (kind : Fault.Kind) : Prop :=
  ∃ fault after, openFrame name bus = .error (fault, after) ∧ fault.kind = kind

theorem Opening.kind {fault : Fault} {after : Bus π}
    (h : Opening name bus (.error (fault, after))) :
    (fault.kind = .invalidArgument ∧ ¬ ∃ index, Selector.Names name index) ∨
    (fault.kind = .deviceNotFound ∧ ∃ index, Selector.Names name index ∧ Readable bus ∧
      frames bus.devices ≤ index.val) ∨
    fault.kind = .protocolError := by
  cases h with
  | unnamed invalid => exact .inl ⟨rfl, invalid⟩
  | missing named readable few => exact .inr (.inl ⟨rfl, _, named, readable, few⟩)
  | unusable | unlisted | unread | refused | unclaimed => exact .inr (.inr rfl)
  | unsized found opens claims sized => cases sized <;> exact .inr (.inr rfl)

theorem Fails.reason {kind : Fault.Kind} (h : Fails name bus kind) :
    (kind = .invalidArgument ∧ ¬ ∃ index, Selector.Names name index) ∨
    (kind = .deviceNotFound ∧ ∃ index, Selector.Names name index ∧ Readable bus ∧
      frames bus.devices ≤ index.val) ∨
    kind = .protocolError := by
  obtain ⟨fault, after, hopen, rfl⟩ := h
  exact (hopen ▸ opening_openFrame name bus).kind

/-- Not finding a frame is logged, with whatever is done about it. -/
theorem Fails.warned (h : Fails name bus .deviceNotFound) :
    warning name bus = some ("No matching USB device '" ++ name ++ "' found") := by
  obtain ⟨hkind, -⟩ | ⟨-, index, named, readable, few⟩ | hkind := h.reason
  · cases hkind
  · exact warning_of_missing named readable few
  · cases hkind

/-- How opening ends on every bus and for every text, and when a fault has which kind. -/
theorem openFrame_exact (name : String) (bus : Bus π) :
    (∀ r, openFrame name bus = r ↔ Opening name bus r) ∧
    (Fails name bus .invalidArgument ↔ ¬ ∃ index, Selector.Names name index) ∧
    (Fails name bus .deviceNotFound ↔ ∃ index, Selector.Names name index ∧ Readable bus ∧
      frames bus.devices ≤ index.val) ∧
    ¬ Fails name bus .transferError := by
  refine ⟨?exact, ⟨?invalid, ?unnamed⟩, ⟨?absent, ?missing⟩, ?transfer⟩
  case exact =>
    intro r
    exact ⟨fun h => h ▸ opening_openFrame name bus, Opening.openFrame_eq⟩
  case invalid =>
    intro h
    rcases h.reason with ⟨-, hinvalid⟩ | ⟨hkind, -⟩ | hkind
    · exact hinvalid
    · cases hkind
    · cases hkind
  case unnamed =>
    intro h
    exact ⟨_, _, openFrame_of_unnamed h, rfl⟩
  case absent =>
    intro h
    rcases h.reason with ⟨hkind, -⟩ | ⟨-, habsent⟩ | hkind
    · cases hkind
    · exact habsent
    · cases hkind
  case missing =>
    intro h
    obtain ⟨index, hnamed, hreadable, hfew⟩ := h
    exact ⟨_, _, openFrame_of_missing hnamed hreadable hfew, rfl⟩
  case transfer =>
    intro h
    rcases h.reason with ⟨hkind, -⟩ | ⟨hkind, -⟩ | hkind
    · cases hkind
    · cases hkind
    · cases hkind

end PictureFrame.Locator
