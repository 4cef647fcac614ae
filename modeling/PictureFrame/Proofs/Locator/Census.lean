import Mathlib.Data.List.Basic
import PictureFrame.CommandLine.Run
import PictureFrame.Proofs.Locator.Balance

set_option autoImplicit false

namespace PictureFrame.Locator

open Usb (Bus Handle Attached Event)

variable {π : Type}

def places (devices : List (Attached π)) : List Nat :=
  devices.findIdxs fun device => device.vendor = 0x1908 ∧ device.product = 0x0102

theorem length_places (devices : List (Attached π)) : (places devices).length = frames devices :=
  List.length_findIdxs

theorem places_lt {devices : List (Attached π)} {i j p q : Nat} (hp : (places devices)[i]? = some p)
    (hq : (places devices)[j]? = some q) (hij : i < j) : p < q := by
  obtain ⟨hi, rfl⟩ := List.getElem?_eq_some_iff.1 hp
  obtain ⟨hj, rfl⟩ := List.getElem?_eq_some_iff.1 hq
  exact List.pairwise_iff_getElem.1 List.pairwise_findIdxs i j hi hj hij

theorem Selected.getElem?_places {devices : List (Attached π)} {index place : Nat}
    {device : Attached π} (h : Selected devices index place device) :
    (places devices)[index]? = some place := by
  have hframe : (device.vendor = 0x1908 ∧ device.product = 0x0102) := ⟨h.vendor, h.product⟩
  have hbefore : (places (devices.take place)).length = index := (length_places _).trans h.earlier
  rw [h.split, places, List.findIdxs_append, List.findIdxs_cons, if_pos (decide_eq_true hframe),
    h.length_take, Nat.zero_add]
  change (places (devices.take place) ++ place :: _)[index]? = some place
  rw [List.getElem?_append_right (Nat.le_of_eq hbefore), hbefore, Nat.sub_self]
  rfl

variable {bus : Bus π}

theorem Readable.count_eq (h : Readable bus) :
    count bus = (.ok (frames bus.devices), listed bus) := by
  rw [count, h.identities_eq, ← countP_pair]
  rfl

theorem count_of_unidentified {fault : Fault} {after : Bus π}
    (h : identities bus = (.error fault, after)) : count bus = (.error fault, after) := by
  rw [count, h]
  rfl

def usbNames (n : Nat) : List String := (List.range (min n 10)).map fun i => "usb" ++ toString i

theorem printed_list {n : Nat} {after : Bus π} (h : count bus = (.ok n, after)) :
    (CommandLine.list bus).printed =
      ("AX206 frames found: " ++ toString n) :: (usbNames n).map ("  " ++ ·) := by
  have hname : ∀ i : Nat, "  usb" ++ toString i = "  " ++ ("usb" ++ toString i) := by
    intro i
    rw [← String.append_assoc]
    rfl
  simp only [CommandLine.list, h, usbNames, List.map_map, hname]
  rfl

def busAfter : Except (Fault × Bus π) (Frame (Handle π)) → Bus π
  | .error (_, after) => after
  | .ok frame => frame.pipe.bus

/-- An attempt to open a frame opens the device at a place and no other. -/
structure Opens (bus : Bus π) (place : Nat) (r : Except (Fault × Bus π) (Frame (Handle π))) :
    Prop where
  events : ∃ later, (busAfter r).events =
    bus.events ++ ([.context, .enumerate, .opened place] ++ later) ∧
      ∀ other, Event.opened other ∉ later
  index : ∀ frame, r = .ok frame → frame.pipe.index = place

variable {r : Except (Fault × Bus π) (Frame (Handle π))}

theorem opens_of_error {place : Nat} {fault : Fault} {after : Bus π} (later : List Event)
    (events : after.events = bus.events ++ ([.context, .enumerate, .opened place] ++ later))
    (no_more : ∀ other, Event.opened other ∉ later) : Opens bus place (.error (fault, after)) :=
  ⟨⟨later, events, no_more⟩, fun _ h => nomatch h⟩

theorem Opens.unique {p q : Nat} (hp : Opens bus p r) (hq : Opens bus q r) : p = q := by
  obtain ⟨later, hlater, -⟩ := hp.events
  obtain ⟨later', hlater', -⟩ := hq.events
  have hsame := List.append_cancel_left (hlater.symm.trans hlater')
  simp only [List.cons_append, List.cons.injEq, Event.opened.injEq] at hsame
  exact hsame.2.2.1

theorem not_opens_of_listed {place : Nat} (h : busAfter r = listed bus) : ¬ Opens bus place r := by
  intro hopens
  obtain ⟨later, hlater, -⟩ := hopens.events
  rw [h, listed_events] at hlater
  have hsame := List.append_cancel_left hlater
  simp at hsame

theorem Held.opens_frame {frame : Frame (Handle π)} (h : Held bus frame.pipe) :
    Opens bus frame.pipe.index (.ok frame) := by
  obtain ⟨transfers, hevents⟩ := h.events
  refine ⟨⟨_, hevents, ?_⟩, ?_⟩
  · simp
  · intro frame' heq
    cases heq
    rfl

theorem Held.opens_drop {handle : Handle π} (h : Held bus handle) (fault : Fault) :
    Opens bus handle.index (.error (fault, handle.drop)) := by
  obtain ⟨transfers, hevents⟩ := h.events
  have hdrop := h.drop_events
  rw [hevents] at hdrop
  simp only [List.append_assoc] at hdrop
  refine opens_of_error (.claimed handle.index 0 :: (transfers.map (.bulk handle.index) ++
    (releases handle.index handle.device.releaseError ++ [.closed handle.index]))) ?_ ?_
  · exact hdrop
  · cases handle.device.releaseError <;> simp [releases]

variable [Usb.Pipe π]

theorem index_of_reaches {handle handle' : Handle π} (h : Usb.Reaches handle handle') :
    handle'.index = handle.index := by
  obtain ⟨turns, hturns⟩ := h
  induction turns generalizing handle with
  | nil =>
    cases hturns
    rfl
  | cons turn turns ih =>
    cases turn with
    | wrote endpoint timeout bytes answer => exact (ih hturns.2 :)
    | read endpoint timeout room answer => exact (ih hturns.2 :)

variable {name : String}

theorem Found.opens {place : Nat} {device : Attached π} (h : Found name bus place device) :
    Opens bus place (openFrame name bus) := by
  cases hopen : device.openError with
  | some cause =>
    rw [h.openFrame_of_unacquired (acquire_of_refused hopen)]
    refine opens_of_error [] ?_ fun _ => List.not_mem_nil
    simp [listed, Bus.record]
  | none =>
    cases hclaim : device.claimError with
    | some cause =>
      rw [h.openFrame_of_unacquired (acquire_of_unclaimed hopen hclaim)]
      refine opens_of_error [.claimed place 0, .closed place] ?_ ?_
      · simp [listed, Bus.record]
      · simp
    | none =>
      have held := h.held hopen hclaim
      have hsized := Frame.sized_ofPipe (claimed bus place device)
      rw [h.openFrame_of_claimed hopen hclaim]
      rcases hpipe : Frame.ofPipe (claimed bus place device) with ⟨fault, handle⟩ | frame
      · rw [hpipe] at hsized
        have hindex : handle.index = place := index_of_reaches hsized.reaches_pipe
        have hopens := (held.reaches hsized.reaches_pipe).opens_drop fault
        rwa [hindex] at hopens
      · rw [hpipe] at hsized
        have hindex : frame.pipe.index = place := index_of_reaches hsized.reaches_frame
        have hopens := (held.reaches hsized.reaches_frame).opens_frame
        rwa [hindex] at hopens

/-- What the number of frames says about opening one by its name. -/
structure Census (bus : Bus π) (n : Nat) : Prop where
  absent : ∀ name index, Selector.Names name index →
    (Fails name bus .deviceNotFound ↔ n ≤ index.val)
  reported : ∀ name index, Selector.Names name index → n ≤ index.val →
    openFrame name bus = .error (.notFound name n, listed bus)
  opened : ∀ name index, Selector.Names name index →
    ∀ place, Opens bus place (openFrame name bus) ↔ (places bus.devices)[index.val]? = some place
  ordered : ∀ name index name' index', Selector.Names name index → Selector.Names name' index' →
    ∀ place place', Opens bus place (openFrame name bus) → Opens bus place' (openFrame name' bus) →
      index < index' → place < place'

theorem Readable.absent_iff (h : Readable bus) {index : Fin 10}
    (named : Selector.Names name index) :
    Fails name bus .deviceNotFound ↔ frames bus.devices ≤ index.val := by
  constructor
  · intro hfails
    rcases hfails.reason with ⟨hkind, -⟩ | ⟨-, other, hother, -, hfew⟩ | hkind
    · cases hkind
    · rwa [named.unique hother]
    · cases hkind
  · intro hfew
    exact ⟨_, _, openFrame_of_missing named h hfew, rfl⟩

theorem Readable.opens_iff (h : Readable bus) {index : Fin 10} (named : Selector.Names name index)
    (place : Nat) : Opens bus place (openFrame name bus) ↔
      (places bus.devices)[index.val]? = some place := by
  rcases Nat.lt_or_ge index.val (frames bus.devices) with hfound | hfew
  · obtain ⟨selected, device, hselected⟩ := exists_selected hfound
    have hopens : Opens bus selected (openFrame name bus) :=
      Found.opens ⟨h, index, named, hselected⟩
    rw [hselected.getElem?_places]
    constructor
    · intro hplace
      rw [hopens.unique hplace]
    · intro hplace
      cases hplace
      exact hopens
  · rw [openFrame_of_missing named h hfew, List.getElem?_eq_none (length_places _ ▸ hfew)]
    constructor
    · intro hplace
      exact absurd hplace (not_opens_of_listed rfl)
    · intro hplace
      cases hplace

theorem Readable.census (h : Readable bus) : Census bus (frames bus.devices) where
  absent _ _ named := h.absent_iff named
  reported _ _ named hfew := openFrame_of_missing named h hfew
  opened _ _ named place := h.opens_iff named place
  ordered _ _ _ _ named named' place place' hplace hplace' hlt :=
    places_lt ((h.opens_iff named place).1 hplace) ((h.opens_iff named' place').1 hplace') hlt

theorem Readable.mem_usbNames (h : Readable bus) (text : String) :
    text ∈ usbNames (frames bus.devices) ↔ (∃ index : Fin 10, text = "usb" ++ toString index.val) ∧
      ∃ place, Opens bus place (openFrame text bus) := by
  simp only [usbNames, List.mem_map, List.mem_range, Nat.lt_min]
  constructor
  · intro hmem
    obtain ⟨i, ⟨hfound, hdigit⟩, rfl⟩ := hmem
    have hplace : i < (places bus.devices).length := length_places bus.devices ▸ hfound
    have named : Selector.Names ("usb" ++ toString i) ⟨i, hdigit⟩ := .inl rfl
    exact ⟨⟨⟨i, hdigit⟩, rfl⟩, _, (h.opens_iff named _).2 (List.getElem?_eq_getElem hplace)⟩
  · intro hopens
    obtain ⟨⟨index, rfl⟩, place, hplace⟩ := hopens
    have hget := (h.opens_iff (.inl rfl) place).1 hplace
    have hlt := (List.getElem?_eq_some_iff.1 hget).1
    exact ⟨index.val, ⟨length_places bus.devices ▸ hlt, index.isLt⟩, rfl⟩

/-- On every bus, either the census and every opening by a valid name fail with one and the same USB
error, or a name finds a frame exactly if its digit is below the count, and the list prints the
`usb` names that find one. -/
theorem census_agrees (bus : Bus π) :
    (∃ cause after, count bus = (.error (.usb cause), after) ∧
      ∀ name index, Selector.Names name index →
        openFrame name bus = .error (.usb cause, after)) ∨
    ∃ n, count bus = (.ok n, listed bus) ∧ Census bus n ∧
      (CommandLine.list bus).printed =
        ("AX206 frames found: " ++ toString n) :: (usbNames n).map ("  " ++ ·) ∧
      ∀ text, text ∈ usbNames n ↔ (∃ index : Fin 10, text = "usb" ++ toString index.val) ∧
        ∃ place, Opens bus place (openFrame text bus) := by
  rcases readable_or_unidentified bus with hreadable | ⟨cause, after, hfault⟩
  · have hcount := hreadable.count_eq
    exact .inr ⟨_, hcount, hreadable.census, printed_list hcount, hreadable.mem_usbNames⟩
  · refine .inl ⟨cause, after, count_of_unidentified hfault, ?_⟩
    intro name index named
    exact openFrame_of_unidentified ⟨index, named⟩ hfault

end PictureFrame.Locator
