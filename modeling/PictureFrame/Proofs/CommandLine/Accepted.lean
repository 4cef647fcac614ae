import Mathlib.Tactic.SplitIfs
import PictureFrame.CommandLine.Run

set_option autoImplicit false

namespace PictureFrame.CommandLine

theorem unsigned?_le {radix limit n : Nat} {cs : List Char}
    (h : Numeral.unsigned? radix limit cs = some n) : n ≤ limit := by
  have hbound : ∀ value : Option Nat,
      (value.bind fun v => if v ≤ limit then some v else none) = some n → n ≤ limit := by
    intro value hvalue
    obtain ⟨v, -, hv⟩ := Option.bind_eq_some_iff.1 hvalue
    split_ifs at hv with hlimit
    cases hv
    exact hlimit
  simp only [Numeral.unsigned?] at h
  split at h
  · exact hbound _ h
  · exact hbound _ h

theorem interval?_ne_zero {s : String} {interval : UInt64} (h : interval? s = some interval) :
    interval ≠ 0 := by
  unfold interval? at h
  obtain ⟨n, hn, h⟩ := Option.bind_eq_some_iff.1 h
  have hlimit := unsigned?_le hn
  split_ifs at h with hpos
  cases h
  intro hzero
  have hnat := congrArg UInt64.toNat hzero
  rw [UInt64.toNat_ofNat_of_lt' (by simp only [UInt64.size]; omega)] at hnat
  change n = 0 at hnat
  omega

theorem command_of_parse {args : List String} {i : Invocation} (h : parse args = some (.run i)) :
    ∃ name r, command? name r = some i.command := by
  unfold parse at h
  split at h
  case h_5 top name rest hread =>
    split_ifs at h
    · unfold helpOn? at h
      split at h
      · cases h
      · split_ifs at h
        cases h
      · cases h
    · split at h
      case h_1 r hrest =>
        obtain ⟨command, hcommand, h⟩ := Option.bind_eq_some_iff.1 h
        cases h
        exact ⟨name, r, hcommand⟩
      all_goals cases h
  all_goals cases h

/-- A command line can ask to watch with any interval but zero. -/
theorem interval_ne_zero_of_parse {args : List String} {config device : Option String}
    {path : String} {interval : Option UInt64}
    (h : parse args = some (.run ⟨config, device, .watch path interval⟩)) :
    interval ≠ some 0 := by
  obtain ⟨name, r, hcommand⟩ := command_of_parse h
  unfold command? at hcommand
  split at hcommand
  case h_6 =>
    obtain ⟨operand, hoperand, hcommand⟩ := Option.bind_eq_some_iff.1 hcommand
    cases hcommand
    intro hzero
    obtain ⟨s, -, hs⟩ := Option.bind_eq_some_iff.1 hzero
    exact interval?_ne_zero hs rfl
  case h_4 =>
    obtain ⟨operand, hoperand, hcommand⟩ := Option.map_eq_some_iff.1 hcommand
    cases hcommand
  case h_5 =>
    obtain ⟨operand, hoperand, hcommand⟩ := Option.bind_eq_some_iff.1 hcommand
    obtain ⟨level, hlevel, hcommand⟩ := Option.bind_eq_some_iff.1 hcommand
    cases hcommand
  all_goals cases hcommand

theorem load_watchInterval_ne_zero {files : Files} {path : String} {settings : Settings}
    (h : Settings.load files path = .ok settings) : settings.watchInterval ≠ 0 := by
  unfold Settings.load at h
  split at h
  · cases h
  · unfold Settings.ofText at h
    split at h
    · cases h
    · split_ifs at h with hzero
      cases h
      exact hzero

theorem watchInterval_ne_zero {files : Files} {i : Invocation} {settings : Settings}
    (h : settingsOf files i = .ok settings) : settings.watchInterval ≠ 0 := by
  obtain ⟨config, device, command⟩ := i
  have hloaded : ∃ loaded : Settings, loaded.watchInterval ≠ 0 ∧
      settings.watchInterval = loaded.watchInterval := by
    dsimp only [settingsOf] at h
    cases config with
    | none =>
      refine ⟨{}, by decide, ?_⟩
      cases device <;> cases h <;> rfl
    | some path =>
      dsimp only at h
      cases hload : Settings.load files path with
      | error cause =>
        rw [hload] at h
        cases h
      | ok loaded =>
        rw [hload] at h
        refine ⟨loaded, load_watchInterval_ne_zero hload, ?_⟩
        cases device <;> cases h <;> rfl
  obtain ⟨loaded, hne, hsame⟩ := hloaded
  rwa [hsame]

theorem failure_of_status {π : Type} {r : Run π} (h : (Report.ofRun r).status = 0) :
    r.failure = none := by
  cases hfailure : r.failure with
  | none => rfl
  | some failure =>
    simp only [Report.ofRun, hfailure] at h
    cases failure <;> cases h

theorem status_of_none {π : Type} {r : Run π} (h : r.failure = none) :
    (Report.ofRun r).status = 0 := by
  rw [Report.ofRun, h]

theorem status_of_some {π : Type} {r : Run π} {failure : Failure} (h : r.failure = some failure) :
    (Report.ofRun r).status = failure.status := by
  rw [Report.ofRun, h]

theorem settingsOf_device (files : Files) (config device : Option String) (command : Command) :
    settingsOf files ⟨config, device, command⟩ =
      (settingsOf files ⟨config, none, command⟩).map fun loaded =>
        { loaded with device := device.getD loaded.device } := by
  dsimp only [settingsOf]
  cases config with
  | none => cases device <;> rfl
  | some path =>
    dsimp only
    cases Settings.load files path with
    | error cause => rfl
    | ok loaded => cases device <;> rfl

theorem status_of_settingsOf {files : Files} {i : Invocation} {failure : Failure}
    (h : settingsOf files i = .error failure) : failure.status = 1 := by
  obtain ⟨config, device, command⟩ := i
  dsimp only [settingsOf] at h
  cases config with
  | none => cases h
  | some path =>
    dsimp only at h
    cases hload : Settings.load files path with
    | error cause =>
      rw [hload] at h
      cases h
      rfl
    | ok loaded =>
      rw [hload] at h
      cases h

end PictureFrame.CommandLine
