import Mathlib.Tactic.SplitIfs
import PictureFrame.Frame

set_option autoImplicit false

namespace PictureFrame.Locator

open Usb (Bus Attached)

variable {π : Type}

def frames (devices : List (Attached π)) : Nat :=
  devices.countP fun device => device.vendor = 0x1908 ∧ device.product = 0x0102

/-- The device at a place is the frame with `index` frames before it. -/
structure Selected (devices : List (Attached π)) (index place : Nat) (device : Attached π) :
    Prop where
  attached : devices[place]? = some device
  vendor : device.vendor = 0x1908
  product : device.product = 0x0102
  earlier : frames (devices.take place) = index

/-- The bus can be used, its devices listed and all of their descriptors read. -/
structure Readable (bus : Bus π) : Prop where
  context : bus.contextError = none
  list : bus.listError = none
  descriptors : ∀ device ∈ bus.devices, device.descriptorError = none

def listed (bus : Bus π) : Bus π := (bus.record .context).record .enumerate

def pair (device : Attached π) : UInt16 × UInt16 := (device.vendor, device.product)

theorem countP_pair (devices : List (Attached π)) :
    (devices.map pair).countP isFrame = frames devices :=
  List.countP_map

theorem mapM_identity_of_readable {devices : List (Attached π)}
    (h : ∀ device ∈ devices, device.descriptorError = none) :
    devices.mapM Attached.identity = .ok (devices.map pair) := by
  induction devices with
  | nil => rfl
  | cons device devices ih =>
    have hdevice : device.identity = .ok (pair device) := by
      rw [Attached.identity, h device List.mem_cons_self]
      rfl
    rw [List.mapM_cons, hdevice, ih fun d hd => h d (List.mem_cons_of_mem _ hd)]
    rfl

theorem mapM_identity_of_unread {before after : List (Attached π)} {device : Attached π}
    {cause : Usb.Error} (earlier : ∀ d ∈ before, d.descriptorError = none)
    (failed : device.descriptorError = some cause) :
    (before ++ device :: after).mapM Attached.identity = .error cause := by
  have hdevice : device.identity = .error cause := by
    rw [Attached.identity, failed]
    rfl
  rw [List.mapM_append, mapM_identity_of_readable earlier, List.mapM_cons, hdevice]
  rfl

variable {bus : Bus π} {cause : Usb.Error}

theorem identities_of_context (h : bus.contextError = some cause) :
    identities bus = (.error (.usb cause), bus.record .context) := by
  have hrecord : (bus.record .context).contextError = some cause := h
  simp only [identities, Bus.enumerate, hrecord]
  rfl

theorem identities_of_list (hcontext : bus.contextError = none) (h : bus.listError = some cause) :
    identities bus = (.error (.usb cause), listed bus) := by
  have hrecord : (bus.record .context).contextError = none := hcontext
  have hlist : ((bus.record .context).record .enumerate).listError = some cause := h
  simp only [identities, Bus.enumerate, hrecord, hlist]
  rfl

theorem identities_of_listed (hcontext : bus.contextError = none) (hlist : bus.listError = none) :
    identities bus = (((bus.devices.mapM Attached.identity).mapError .usb).map fun ids =>
      (bus.devices, ids), listed bus) := by
  have hcontext' : (bus.record .context).contextError = none := hcontext
  have hlist' : ((bus.record .context).record .enumerate).listError = none := hlist
  simp only [identities, Bus.enumerate, hcontext', hlist']
  change (do
    let ids ← (bus.devices.mapM Attached.identity).mapError Fault.usb
    return (bus.devices, ids), listed bus) = _
  cases bus.devices.mapM Attached.identity <;> rfl

theorem Readable.identities_eq (h : Readable bus) :
    identities bus = (.ok (bus.devices, bus.devices.map pair), listed bus) := by
  rw [identities_of_listed h.context h.list, mapM_identity_of_readable h.descriptors]
  rfl

theorem identities_of_unread (hcontext : bus.contextError = none) (hlist : bus.listError = none)
    {before after : List (Attached π)} {device : Attached π}
    (hdevices : bus.devices = before ++ device :: after)
    (earlier : ∀ d ∈ before, d.descriptorError = none)
    (failed : device.descriptorError = some cause) :
    identities bus = (.error (.usb cause), listed bus) := by
  rw [identities_of_listed hcontext hlist, hdevices, mapM_identity_of_unread earlier failed]
  rfl

inductive Reading (bus : Bus π) : Prop
  | readable (all : Readable bus)
  | unusable {cause : Usb.Error} (failed : bus.contextError = some cause)
  | unlisted {cause : Usb.Error} (context : bus.contextError = none)
      (failed : bus.listError = some cause)
  | unread {cause : Usb.Error} {before after : List (Attached π)} {device : Attached π}
      (context : bus.contextError = none) (list : bus.listError = none)
      (devices : bus.devices = before ++ device :: after)
      (earlier : ∀ d ∈ before, d.descriptorError = none)
      (failed : device.descriptorError = some cause)

theorem reading (bus : Bus π) : Reading bus := by
  cases hcontext : bus.contextError with
  | some cause => exact .unusable hcontext
  | none =>
    cases hlist : bus.listError with
    | some cause => exact .unlisted hcontext hlist
    | none =>
      cases hread : bus.devices.findSome? (·.descriptorError) with
      | some cause =>
        obtain ⟨before, device, after, hdevices, hfailed, hearlier⟩ :=
          List.findSome?_eq_some_iff.1 hread
        exact .unread hcontext hlist hdevices hearlier hfailed
      | none => exact .readable ⟨hcontext, hlist, List.findSome?_eq_none_iff.1 hread⟩

theorem readable_or_unidentified (bus : Bus π) :
    Readable bus ∨ ∃ cause after, identities bus = (.error (.usb cause), after) := by
  cases reading bus with
  | readable all => exact .inl all
  | unusable failed => exact .inr ⟨_, _, identities_of_context failed⟩
  | unlisted context failed => exact .inr ⟨_, _, identities_of_list context failed⟩
  | unread context list devices earlier failed =>
    exact .inr ⟨_, _, identities_of_unread context list devices earlier failed⟩

theorem nthFrom_eq_error {index place found : Nat} {ids : List (UInt16 × UInt16)}
    (h : found + ids.countP isFrame ≤ index) :
    nthFrom index place found ids = .error (found + ids.countP isFrame) := by
  induction ids generalizing place found with
  | nil => rfl
  | cons identity ids ih =>
    by_cases hframe : isFrame identity
    · rw [List.countP_cons_of_pos hframe] at h ⊢
      rw [nthFrom, if_pos hframe, if_neg (by omega), ih (by omega)]
      congr 1
      omega
    · rw [List.countP_cons_of_neg hframe] at h ⊢
      rw [nthFrom, if_neg hframe, ih h]

theorem nthFrom_eq_ok {index place found : Nat} {before after : List (UInt16 × UInt16)}
    {identity : UInt16 × UInt16} (hframe : isFrame identity = true)
    (h : found + before.countP isFrame = index) :
    nthFrom index place found (before ++ identity :: after) = .ok (place + before.length) := by
  induction before generalizing place found with
  | nil => exact (if_pos hframe).trans (if_pos h)
  | cons first before ih =>
    rw [List.cons_append, nthFrom]
    by_cases hfirst : isFrame first
    · rw [List.countP_cons_of_pos hfirst] at h
      rw [if_pos hfirst, if_neg (by omega), ih (by omega), List.length_cons]
      congr 1
      omega
    · rw [List.countP_cons_of_neg hfirst] at h
      rw [if_neg hfirst, ih h, List.length_cons]
      congr 1
      omega

theorem nth_eq_error {devices : List (Attached π)} {index : Nat} (h : frames devices ≤ index) :
    nth index (devices.map pair) = .error (frames devices) := by
  rw [← countP_pair] at h ⊢
  rw [nth, nthFrom_eq_error (by omega), Nat.zero_add]

theorem Selected.split {devices : List (Attached π)} {index place : Nat} {device : Attached π}
    (h : Selected devices index place device) :
    devices = devices.take place ++ device :: devices.drop (place + 1) := by
  obtain ⟨hplace, hget⟩ := List.getElem?_eq_some_iff.1 h.attached
  rw [← hget, ← List.drop_eq_getElem_cons hplace, List.take_append_drop]

theorem Selected.length_take {devices : List (Attached π)} {index place : Nat} {device : Attached π}
    (h : Selected devices index place device) : (devices.take place).length = place :=
  List.length_take_of_le (Nat.le_of_lt (List.getElem?_eq_some_iff.1 h.attached).1)

theorem Selected.nth_eq {devices : List (Attached π)} {index place : Nat} {device : Attached π}
    (h : Selected devices index place device) : nth index (devices.map pair) = .ok place := by
  have hframe : isFrame (pair device) = true := decide_eq_true ⟨h.vendor, h.product⟩
  rw [h.split, List.map_append, List.map_cons, nth, nthFrom_eq_ok hframe, List.length_map,
    h.length_take, Nat.zero_add]
  rw [countP_pair, h.earlier, Nat.zero_add]

theorem Selected.cons {devices : List (Attached π)} {index place : Nat} {device : Attached π}
    (h : Selected devices index place device) (first : Attached π) :
    Selected (first :: devices) (index + frames [first]) (place + 1) device := by
  refine ⟨h.attached, h.vendor, h.product, ?_⟩
  rw [List.take_succ_cons, ← h.earlier, frames, ← List.singleton_append, List.countP_append,
    Nat.add_comm]
  rfl

theorem exists_selected {devices : List (Attached π)} {index : Nat} (h : index < frames devices) :
    ∃ place device, Selected devices index place device := by
  induction devices generalizing index with
  | nil => exact absurd h (Nat.not_lt_zero index)
  | cons first devices ih =>
    have hcount : frames (first :: devices) = frames [first] + frames devices := by
      rw [frames, ← List.singleton_append, List.countP_append]
      rfl
    -- The first device is the frame looked for, or the others have it under a smaller index.
    by_cases hfirst : index < frames [first]
    · obtain ⟨device, hmem, hdevice⟩ := List.countP_pos_iff.1 (Nat.zero_lt_of_lt hfirst)
      cases List.mem_singleton.1 hmem
      have hframe := of_decide_eq_true hdevice
      have hone : frames [first] ≤ 1 := List.countP_le_length
      refine ⟨0, first, rfl, hframe.1, hframe.2, ?_⟩
      change 0 = index
      omega
    · have hrest : index - frames [first] < frames devices := by omega
      obtain ⟨place, device, hselected⟩ := ih hrest
      have hcons := hselected.cons first
      rw [Nat.sub_add_cancel (by omega)] at hcons
      exact ⟨place + 1, device, hcons⟩

end PictureFrame.Locator
