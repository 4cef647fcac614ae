import PictureFrame.CommandLine.Run
import PictureFrame.Proofs.Locator.Balance
import PictureFrame.Proofs.Session.Wire

set_option autoImplicit false

namespace PictureFrame.CommandLine

open Usb (Bus Handle)
open Locator (Leaves Held)

variable {π : Type}

theorem leaves_refl (bus : Bus π) : Leaves bus bus :=
  ⟨[], (List.append_nil _).symm, .unopened List.nil_prefix⟩

theorem closing_bus (closed : Except Fault Unit × Bus π) (printed : List String)
    (failure : Option Failure) : (Run.closing closed printed failure).bus = closed.2 := by
  rcases closed with ⟨fault | done, bus⟩ <;> rfl

theorem finish_bus (painted : Flush × Session (Frame (Handle π))) (more : List String) :
    (finish painted more).bus = (Locator.close painted.2.screen).2 := by
  rw [finish]
  cases report painted.1 <;> exact closing_bus _ _ _

theorem finish_bus_eq_drop (painted : Flush × Session (Frame (Handle π))) (more : List String) :
    (finish painted more).bus = painted.2.screen.pipe.drop := by
  rw [finish_bus, Locator.close_eq_drop]

theorem startSession_screen {settings : Settings} {frame : Frame (Handle π)}
    {s : Session (Frame (Handle π))} (h : startSession settings frame = .ok s) :
    s.screen = frame := by
  obtain ⟨fb, -, h⟩ := Checked.bind_eq_ok.1 h
  cases h
  rfl

theorem list_bus (bus : Bus π) : (list bus).bus = (Locator.count bus).2 := by
  rw [list]
  rcases Locator.count bus with ⟨fault | count, after⟩ <;> rfl

theorem list_leaves (bus : Bus π) : Leaves bus (list bus).bus := by
  rw [list_bus]
  exact Locator.count_leaves bus

variable [Usb.Pipe π]

theorem push_reaches {s s' : Session (Frame (Handle π))} {picture : Picture} {outcome : Flush}
    (h : push s picture = .ok (outcome, s')) : Usb.Reaches s.screen.pipe s'.screen.pipe := by
  obtain ⟨screen, display, framebuffer⟩ := s
  cases framebuffer with
  | none =>
    change Session.update ⟨screen, display, none⟩ 0 0 0 0 = _ at h
    exact Session.update_reaches h
  | some fb =>
    -- The picture is drawn into the framebuffer, so the update finds the same screen.
    obtain ⟨drawn, -, hupdate⟩ := Checked.bind_eq_ok.1 h
    exact (Session.update_reaches hupdate :)

theorem watchOnce_reaches {decode : Decoder} {files : Files} {path : String}
    {s s' : Session (Frame (Handle π))} (h : watchOnce decode files path s = .ok s') :
    Usb.Reaches s.screen.pipe s'.screen.pipe := by
  rw [watchOnce] at h
  split at h
  case h_1 =>
    cases h
    exact .refl _
  case h_2 =>
    obtain ⟨⟨outcome, pushed⟩, hpush, h⟩ := Checked.bind_eq_ok.1 h
    cases h
    exact push_reaches hpush

theorem watched_reaches {decode : Decoder} {files : Files} {path : String} {looks : List Nat}
    {s s' : Session (Frame (Handle π))}
    (h : looks.foldlM (fun s _ => watchOnce decode files path s) s = .ok s') :
    Usb.Reaches s.screen.pipe s'.screen.pipe := by
  induction looks generalizing s with
  | nil =>
    cases h
    exact .refl _
  | cons look looks ih =>
    rw [List.foldlM_cons] at h
    obtain ⟨next, hnext, h⟩ := Checked.bind_eq_ok.1 h
    exact (watchOnce_reaches hnext).trans (ih h)

/-- A command that gets its frame holds it, and one that does not has closed what it opened. -/
def Settled (bus : Bus π) : Except (Run π) (Frame (Handle π)) → Prop
  | .ok frame => Held bus frame.pipe
  | .error run => Leaves bus run.bus

theorem openFrame_settled (settings : Settings) (bus : Bus π) :
    Settled bus (openFrame settings bus) := by
  rw [openFrame]
  rcases hopen : Locator.openFrame settings.device bus with ⟨fault, after⟩ | frame
  · exact Locator.openFrame_leaves hopen
  · have held := Locator.openFrame_held hopen
    cases settings.backlight with
    | none => exact held
    | some level =>
      have hlit := held.reaches (Frame.setBacklight_reaches level frame)
      dsimp only
      generalize Frame.setBacklight level frame = answered at hlit ⊢
      obtain ⟨fault | code, lit⟩ := answered
      · exact hlit.drop
      · exact hlit

theorem withSession_leaves {settings : Settings} {bus : Bus π}
    {next : Session (Frame (Handle π)) → Checked (Run π)}
    (h : ∀ s run, Held bus s.screen.pipe → next s = .ok run → Leaves bus run.bus) :
    Leaves bus (withSession settings bus next).bus := by
  have hopen := openFrame_settled settings bus
  rw [withSession]
  generalize openFrame settings bus = opened at hopen ⊢
  obtain run | frame := opened
  · exact hopen
  · have held : Held bus frame.pipe := hopen
    dsimp only
    cases hsession : startSession settings frame >>= next with
    | error cause => exact held.drop
    | ok run =>
      obtain ⟨s, hstart, hnext⟩ := Checked.bind_eq_ok.1 hsession
      rw [← startSession_screen hstart] at held
      exact h s run held hnext

theorem info_leaves (settings : Settings) (bus : Bus π) : Leaves bus (info settings bus).bus := by
  have hopen := openFrame_settled settings bus
  rw [info]
  generalize openFrame settings bus = opened at hopen ⊢
  obtain run | frame := opened
  · exact hopen
  · have hclose : Leaves bus (Locator.close frame).2 := Held.close hopen
    dsimp only
    generalize Locator.close frame = closed at hclose ⊢
    obtain ⟨fault | done, after⟩ := closed
    · exact hclose
    · exact hclose

theorem painted_leaves {bus : Bus π} {s : Session (Frame (Handle π))} {picture : Picture}
    {more : List String} {run : Run π} (held : Held bus s.screen.pipe)
    (h : (do return finish (← push s picture) more : Checked (Run π)) = .ok run) :
    Leaves bus run.bus := by
  obtain ⟨⟨outcome, pushed⟩, hpush, h⟩ := Checked.bind_eq_ok.1 h
  cases h
  rw [finish_bus]
  exact (held.reaches (push_reaches hpush)).close

theorem clear_leaves (settings : Settings) (text : String) (bus : Bus π) :
    Leaves bus (clear settings text bus).bus := by
  rw [clear]
  split
  case h_1 => exact leaves_refl bus
  case h_2 color hcolor =>
    exact withSession_leaves fun s run held hrun => painted_leaves held hrun

theorem paint_leaves (decode : Decoder) (settings : Settings) (files : Files) (path : String)
    (bus : Bus π) : Leaves bus (paint decode settings files path bus).bus := by
  refine withSession_leaves ?_
  intro s run held hrun
  split at hrun
  case h_1 =>
    cases hrun
    exact held.drop
  case h_2 picture hpicture => exact painted_leaves held hrun

theorem setBacklight_leaves (settings : Settings) (level : UInt16) (bus : Bus π) :
    Leaves bus (setBacklight settings level bus).bus := by
  have hopen := openFrame_settled settings bus
  rw [setBacklight]
  generalize openFrame settings bus = opened at hopen ⊢
  obtain run | frame := opened
  · exact hopen
  · have hlit := Held.reaches hopen (Frame.setBacklight_reaches level frame)
    dsimp only
    generalize Frame.setBacklight level frame = answered at hlit ⊢
    obtain ⟨fault | code, lit⟩ := answered
    · exact hlit.drop
    · dsimp only
      rw [closing_bus]
      exact hlit.close

theorem watch_leaves (decode : Decoder) (settings : Settings) (files : Files) (path : String)
    (interval : UInt64) (looks : Nat) (bus : Bus π) :
    Leaves bus (watch decode settings files path interval looks bus).bus := by
  rw [watch]
  split_ifs
  · exact leaves_refl bus
  · refine withSession_leaves ?_
    intro s run held hrun
    obtain ⟨watched, hwatched, hrun⟩ := Checked.bind_eq_ok.1 hrun
    cases hrun
    rw [closing_bus]
    exact (held.reaches (watched_reaches hwatched)).close

theorem run_leaves (decode : Decoder) (files : Files) (looks : Nat) (i : Invocation)
    (bus : Bus π) : Leaves bus (run decode files looks i bus).bus := by
  rw [run]
  split
  case h_1 => exact leaves_refl bus
  case h_2 settings hsettings =>
    cases i.command with
    | list => exact list_leaves bus
    | info => exact info_leaves settings bus
    | clear color => exact clear_leaves settings color bus
    | paint path => exact paint_leaves decode settings files path bus
    | backlight level => exact setBacklight_leaves settings level bus
    | watch path interval => exact watch_leaves decode settings files path _ looks bus

theorem runLineWith_leaves (decode : Decoder) (args : List String) (files : Files) (looks : Nat)
    (bus : Bus π) : Leaves bus (runLineWith decode args files looks bus).2 := by
  rw [runLineWith]
  split
  case h_4 invocation hparse => exact run_leaves decode files looks invocation bus
  all_goals exact leaves_refl bus

/-- Every client of the library and every command line, with every decoder of images, leaves a
balanced record on every bus. -/
theorem always_balanced (bus : Bus π) :
    (∀ name ops ending, Leaves bus (Locator.visit name ops ending bus)) ∧
    ∀ decode args files looks, Leaves bus (runLineWith decode args files looks bus).2 :=
  ⟨fun name ops ending => Locator.visit_leaves name ops ending bus,
    fun decode args files looks => runLineWith_leaves decode args files looks bus⟩

end PictureFrame.CommandLine
