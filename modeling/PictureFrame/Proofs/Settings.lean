import PictureFrame.Proofs.CommandLine.Sequence
import PictureFrame.Proofs.Frame.Arguments

set_option autoImplicit false

namespace PictureFrame.Settings

open CommandLine (openFrame openFrame_of_malformed openFrame_of_opened light_of_none light_of_fault
  light_of_set load_watchInterval_ne_zero)
open Usb (Bus)

/-- No value of the settings is a bad argument to what it is for. -/
structure Usable (settings : Settings) : Prop where
  interval : 0 < settings.watchInterval
  backlight : ∀ level, settings.backlight = some level →
    ∀ (π : Type) [Usb.Pipe π] (frame : Frame π),
      ¬ ∃ fault, (Frame.setBacklight level frame).1 = .error fault ∧ fault.kind = .invalidArgument
  device : ∀ (π : Type) [Usb.Pipe π] (bus : Bus π),
    ¬ Locator.Fails settings.device bus .invalidArgument

def Sound (settings : Settings) : Prop :=
  (∃ index, Selector.Names settings.device index) ∧
    ∀ level, settings.backlight = some level → level ≤ 7

variable {settings : Settings} {files : Files} {path : String}

theorem Sound.usable (h : settings.Sound) (hinterval : 0 < settings.watchInterval) :
    settings.Usable where
  interval := hinterval
  backlight level hlevel π _ frame hinvalid := by
    have hbright := (Frame.setBacklight_guarded level frame).invalid.1 hinvalid
    exact UInt16.not_le.2 hbright (h.2 level hlevel)
  device π _ bus hfails := (Locator.openFrame_exact settings.device bus).2.1.1 hfails h.1

theorem Usable.sound (h : settings.Usable) : settings.Sound := by
  constructor
  · by_contra hunnamed
    let bus : Bus Usb.Script := { devices := [] }
    exact h.device _ bus ((Locator.openFrame_exact settings.device bus).2.1.2 hunnamed)
  · intro level hlevel
    by_contra hbright
    let frame : Frame Usb.Script := ⟨{}, 0, 0⟩
    exact h.backlight level hlevel _ frame
      ((Frame.setBacklight_guarded level frame).invalid.2 (UInt16.not_le.1 hbright))

section Applying

variable {π : Type} [Usb.Pipe π]

theorem openFrame_of_unsound (h : ¬ settings.Sound) (bus : Bus π) :
    ∃ run, openFrame settings bus = .error run := by
  rcases not_and_or.1 h with hunnamed | hunset
  · exact ⟨_, openFrame_of_malformed hunnamed bus⟩
  · simp only [not_forall] at hunset
    obtain ⟨level, hlevel, hbright⟩ := hunset
    cases hopen : Locator.openFrame settings.device bus with
    | error failed => exact ⟨_, by rw [openFrame, hopen]⟩
    | ok frame =>
      rw [openFrame_of_opened hopen]
      exact ⟨_, light_of_fault hlevel (Frame.setBacklight_of_bright hbright frame)⟩

variable {bus : Bus π} {run : CommandLine.Run π}

theorem openFrame_error (h : openFrame settings bus = .error run) :
    (∃ fault after, Locator.openFrame settings.device bus = .error (fault, after) ∧
      run.failure = some (.opening settings.device fault)) ∨
    ∃ level fault, ∃ frame : Frame (Usb.Handle π), settings.backlight = some level ∧
      (Frame.setBacklight level frame).1 = .error fault ∧
      run.failure = some (.backlight fault) := by
  cases hopen : Locator.openFrame settings.device bus with
  | error failed =>
    rw [openFrame, hopen] at h
    cases h
    exact .inl ⟨failed.1, failed.2, rfl, rfl⟩
  | ok frame =>
    rw [openFrame_of_opened hopen] at h
    cases hbacklight : settings.backlight with
    | none => cases h.symm.trans (light_of_none hbacklight)
    | some level =>
      rcases hset : Frame.setBacklight level frame with ⟨fault | code, lit⟩
      · cases h.symm.trans (light_of_fault hbacklight hset)
        exact .inr ⟨level, fault, frame, rfl, congrArg Prod.fst hset, rfl⟩
      · cases h.symm.trans (light_of_set hbacklight hset)

theorem Usable.openFrame_error (h : settings.Usable) (hrun : openFrame settings bus = .error run) :
    ∃ fault, fault.kind ≠ .invalidArgument ∧
      (run.failure = some (.opening settings.device fault) ∨
        run.failure = some (.backlight fault)) := by
  rcases Settings.openFrame_error hrun with
    ⟨fault, after, hopen, hfailure⟩ | ⟨level, fault, frame, hlevel, hset, hfailure⟩
  · exact ⟨fault, fun hkind => h.device π bus ⟨fault, after, hopen, hkind⟩, .inl hfailure⟩
  · exact ⟨fault, fun hkind => h.backlight level hlevel _ frame ⟨fault, hset, hkind⟩,
      .inr hfailure⟩

end Applying

/-- Settings that are loaded have an interval, and they are usable exactly if they are sound.
Opening then never fails for a bad argument; with other settings it fails on every bus. -/
theorem usable_of_load (h : load files path = .ok settings) :
    0 < settings.watchInterval ∧ (settings.Usable ↔ settings.Sound) ∧
    (settings.Sound → ∀ (π : Type) [Usb.Pipe π] (bus : Bus π) (run : CommandLine.Run π),
      openFrame settings bus = .error run → ∃ fault, fault.kind ≠ .invalidArgument ∧
        (run.failure = some (.opening settings.device fault) ∨
          run.failure = some (.backlight fault))) ∧
    (¬ settings.Sound → ∀ (π : Type) [Usb.Pipe π] (bus : Bus π),
      ∃ run, openFrame settings bus = .error run) := by
  have hinterval : 0 < settings.watchInterval :=
    UInt64.pos_iff_ne_zero.2 (load_watchInterval_ne_zero h)
  refine ⟨hinterval, ⟨Usable.sound, fun hsound => hsound.usable hinterval⟩, ?_, ?_⟩
  · intro hsound π _ bus run hrun
    exact (hsound.usable hinterval).openFrame_error hrun
  · intro hunsound π _ bus
    exact openFrame_of_unsound hunsound bus

def brightestFile : Files := fun path =>
  if path = "brightest.toml" then .ok "device = \"dpf1\"\nbacklight = 7\n".toUTF8.data
  else .error .missing

theorem usable_of_load_brightest : ∃ settings, load brightestFile "brightest.toml" = .ok settings ∧
    0 < settings.watchInterval ∧ settings.Usable := by
  have hload : load brightestFile "brightest.toml" = .ok { device := "dpf1", backlight := some 7 } := by
    decide +kernel
  obtain ⟨hinterval, husable, -⟩ := usable_of_load hload
  refine ⟨_, hload, hinterval, husable.2 ⟨⟨1, .inr (by decide +kernel)⟩, ?_⟩⟩
  intro level hlevel
  cases hlevel
  decide

def brightFile : Files := fun path =>
  if path = "bright.toml" then .ok "backlight = 9\n".toUTF8.data else .error .missing

theorem not_usable_of_load : ¬ ∀ (files : Files) (path : String) (settings : Settings),
    load files path = .ok settings → settings.Usable := by
  intro h
  have hload : load brightFile "bright.toml" = .ok { backlight := some 9 } := by decide +kernel
  have hlevel := (h brightFile "bright.toml" _ hload).sound.2 9 rfl
  exact absurd hlevel (by decide)

end PictureFrame.Settings
