import PictureFrame.Proofs.CommandLine.Balance
import PictureFrame.Proofs.Frame.Course
import PictureFrame.Proofs.Image
import PictureFrame.Proofs.Session.Repetition

set_option autoImplicit false

namespace PictureFrame

namespace CommandLine

open Usb (Bus Handle)

/-- The picture has four bytes for each pixel, whatever the size. -/
def Picture.Fills (picture : Picture) : Prop :=
  ∀ width height, (picture width height).size = width * height * 4

theorem uniform_plain (color : Color) (width height : Nat) :
    Uniform color (width * height) (plain color width height) := by
  have h := foldl_counted (P := Uniform color) (List.range (width * height))
    (fun n done _ _ hdone => hdone.append ⟨rfl, rfl, rfl⟩) (uniform_empty color)
  rwa [List.length_range, Nat.zero_add, Nat.mul_one] at h

theorem fills_plain (color : Color) : (plain color).Fills :=
  fun width height => (uniform_plain color width height).size

variable {π : Type}

def panel (frame : Frame (Handle π)) : Rect := ⟨0, 0, frame.width, frame.height⟩

def blank (settings : Settings) (frame : Frame (Handle π)) : Display :=
  .withCanvas frame.width frame.height
    (settings.canvas.resolve (frame.width, frame.height)).1
    (settings.canvas.resolve (frame.width, frame.height)).2

theorem blank_wellFormed (settings : Settings) (frame : Frame (Handle π)) :
    (blank settings frame).markAll.WellFormed :=
  (Display.withCanvas_wellFormed _ _ _ _).markAll

structure Fresh (settings : Settings) (frame : Frame (Handle π)) (fb : Framebuffer)
    (s : Session (Frame (Handle π))) : Prop where
  session : s = ⟨frame, (blank settings frame).markAll, some fb⟩
  allocated : fb.WellFormed
  width : fb.width = frame.width.toUInt32
  height : fb.height = frame.height.toUInt32

variable {settings : Settings} {frame : Frame (Handle π)} {fb : Framebuffer}
variable {s s' : Session (Frame (Handle π))}

theorem startSession_fresh (settings : Settings) (frame : Frame (Handle π)) :
    ∃ fb s, startSession settings frame = .ok s ∧ Fresh settings frame fb s := by
  have hsmall : frame.width.toUInt32.toNat * frame.height.toUInt32.toNat * 4 <
      Checked.allocationLimit := by
    have hproduct : frame.width.toNat * frame.height.toNat ≤ 65536 * 65536 :=
      Nat.mul_le_mul (Nat.le_of_lt frame.width.toNat_lt) (Nat.le_of_lt frame.height.toNat_lt)
    rw [UInt16.toNat_toUInt32, UInt16.toNat_toUInt32]
    unfold Checked.allocationLimit
    omega
  obtain ⟨fb, hfb⟩ := Framebuffer.new_ok hsmall
  obtain ⟨wf, hwidth, hheight, -⟩ := Framebuffer.new_eq_ok hfb
  refine ⟨fb, ⟨frame, (blank settings frame).markAll, some fb⟩, ?_, rfl, wf, hwidth, hheight⟩
  rw [startSession]
  dsimp only
  rw [Session.allocate, hfb]
  rfl

theorem Fresh.wellFormed (h : Fresh settings frame fb s) : s.WellFormed := by
  rw [h.session]
  refine ⟨blank_wellFormed settings frame, ?_⟩
  intro current hcurrent
  cases hcurrent
  exact h.allocated

theorem Picture.Fills.fits {picture : Picture} (h : picture.Fills) (wf : fb.WellFormed) :
    (picture fb.width.toNat fb.height.toNat).size = fb.data.size := by
  rw [h, wf.data_size]

/-- The panel is no larger than the canvas of the settings. -/
def Covers (settings : Settings) (width height : UInt16) : Prop :=
  width ≤ max (settings.canvas.width.getD width) 1 ∧
    height ≤ max (settings.canvas.height.getD height) 1

instance (settings : Settings) (width height : UInt16) : Decidable (Covers settings width height) :=
  inferInstanceAs (Decidable (_ ∧ _))

theorem Fresh.onCanvas (h : Fresh settings frame fb s)
    (hcovers : Covers settings frame.width frame.height) : Session.OnCanvas fb s.display := by
  have hcanvas := (blank settings frame).markAll_canvas
  rw [Session.OnCanvas, h.session, h.width, h.height, UInt16.toNat_toUInt32, UInt16.toNat_toUInt32]
  dsimp only
  rw [hcanvas.1, hcanvas.2]
  exact ⟨UInt16.le_iff_toNat_le.1 hcovers.1, UInt16.le_iff_toNat_le.1 hcovers.2⟩

variable [Usb.Pipe π]

section
variable {bus : Bus π} {run : Run π}

theorem withSession_of_error (hopen : openFrame settings bus = .error run)
    (next : Session (Frame (Handle π)) → Checked (Run π)) :
    withSession settings bus next = run := by
  rw [withSession, hopen]

theorem withSession_of_ok {next : Session (Frame (Handle π)) → Checked (Run π)}
    (hopen : openFrame settings bus = .ok frame) (hstart : startSession settings frame = .ok s)
    (hnext : next s = .ok run) : withSession settings bus next = run := by
  simp only [withSession, hopen, hstart, bind, Except.bind, hnext]

end

def drawn (fb : Framebuffer) (picture : Picture) : Framebuffer :=
  { fb with data := picture fb.width.toNat fb.height.toNat }

theorem drawn_wellFormed (wf : fb.WellFormed) {picture : Picture}
    (hfits : (picture fb.width.toNat fb.height.toNat).size = fb.data.size) :
    (drawn fb picture).WellFormed :=
  ⟨hfits.trans wf.data_size, hfits ▸ wf.data_size_lt⟩

theorem push_of_misfit (hfb : s.framebuffer = some fb) {picture : Picture}
    (hfits : (picture fb.width.toNat fb.height.toNat).size ≠ fb.data.size) :
    push s picture = .error .index := by
  rw [push, hfb]
  dsimp only
  rw [Framebuffer.replace, if_neg hfits]
  rfl

theorem push_of_fit (hfb : s.framebuffer = some fb) {picture : Picture}
    (hfits : (picture fb.width.toNat fb.height.toNat).size = fb.data.size) :
    push s picture =
      Session.update { s with framebuffer := some (drawn fb picture) } 0 0 fb.width fb.height := by
  rw [push, hfb]
  dsimp only
  rw [Framebuffer.replace, if_pos hfits]
  rfl

/-- A picture that does not have the framebuffer's size stops the program. Any other is drawn and
announced as a whole. -/
theorem push_cases (wf : s.WellFormed) (hfb : s.framebuffer = some fb) (picture : Picture) :
    (picture fb.width.toNat fb.height.toNat).size ≠ fb.data.size ∧
      push s picture = .error .index ∨
    ∃ outcome s', (picture fb.width.toNat fb.height.toNat).size = fb.data.size ∧
      push s picture = .ok (outcome, s') ∧
      Session.WellFormed { s with framebuffer := some (drawn fb picture) } ∧
      Session.Step { s with framebuffer := some (drawn fb picture) }
        (.update 0 0 fb.width fb.height) (some outcome) s' := by
  by_cases hfits : (picture fb.width.toNat fb.height.toNat).size = fb.data.size
  · have hdrawn : Session.WellFormed { s with framebuffer := some (drawn fb picture) } := by
      refine ⟨wf.display, ?_⟩
      intro current hcurrent
      cases hcurrent
      exact drawn_wellFormed (wf.framebuffer fb hfb) hfits
    obtain ⟨outcome, s', hupdate, hstep⟩ := hdrawn.update_step 0 0 fb.width fb.height
    exact .inr ⟨outcome, s', hfits, (push_of_fit hfb hfits).trans hupdate, hdrawn, hstep⟩
  · exact .inl ⟨hfits, push_of_misfit hfb hfits⟩

theorem push_shows (wf : s.WellFormed) (hfb : s.framebuffer = some fb) {picture : Picture}
    {outcome : Flush} (h : push s picture = .ok (outcome, s')) :
    Session.Shows (drawn fb picture) [⟨0, 0, fb.width, fb.height⟩]
      { s with framebuffer := some (drawn fb picture) } s' := by
  rcases push_cases wf hfb picture with ⟨-, habort⟩ | ⟨_, _, -, hpush, hdrawn, hstep⟩
  · cases h.symm.trans habort
  · cases h.symm.trans hpush
    exact Session.Step.shows (r := ⟨0, 0, fb.width, fb.height⟩) hstep hdrawn rfl

theorem push_again (wf : s.WellFormed) (hfb : s.framebuffer = some fb) {picture : Picture}
    {outcome : Flush} (h : push s picture = .ok (outcome, s'))
    (hcanvas : Session.OnCanvas fb s.display) : push s' picture = .ok (.clean, s') := by
  have hshows := push_shows wf hfb h
  have hfit : Session.OnCanvas (drawn fb picture) s.display := hcanvas
  have hsettled : Session.Settled (drawn fb picture)
      (Session.positions (drawn fb picture) 0 0 fb.width fb.height) s'.display :=
    (Session.settled_samePixels hshows.pixels).2 ((Session.settled_copied_iff wf.display).2
      (hfit.prevails ⟨0, 0, fb.width, fb.height⟩ []))
  have hsame : ({ s' with framebuffer := some (drawn fb picture) } : Session _) = s' := by
    rw [← hshows.framebuffer]
  rw [push_of_fit hshows.framebuffer rfl]
  change Session.update { s' with framebuffer := some (drawn fb picture) } 0 0 fb.width
    fb.height = _
  rw [hsame]
  exact Session.WellFormed.update_of_settled (r := ⟨0, 0, fb.width, fb.height⟩) hshows.wellFormed
    hshows.framebuffer (hshows.clean (.inl (List.cons_ne_nil _ _))) hsettled

def firstShown (settings : Settings) (frame : Frame (Handle π)) (fb : Framebuffer) : Display :=
  Session.copied fb (Session.positions fb 0 0 fb.width fb.height) (blank settings frame).markAll

omit [Usb.Pipe π] in
theorem firstShown_wellFormed (settings : Settings) (frame : Frame (Handle π)) (fb : Framebuffer) :
    (firstShown settings frame fb).WellFormed :=
  Session.copied_wellFormed (blank_wellFormed settings frame) _ _

omit [Usb.Pipe π] in
theorem firstShown_whole (settings : Settings) (fb : Framebuffer) (hwidth : 1 ≤ frame.width)
    (hheight : 1 ≤ frame.height) :
    (firstShown settings frame fb).dirty.Within (firstShown settings frame fb).width.toNat
      (firstShown settings frame fb).height.toNat ∧
    (firstShown settings frame fb).dirty.rect = panel frame :=
  (Session.tracks_copied (blank_wellFormed settings frame) _ _).whole
    (firstShown_wellFormed settings frame fb) hwidth hheight

/-- The first picture of a session goes out as one blit of the whole panel. -/
theorem Fresh.push_eq (h : Fresh settings frame fb s) (hwidth : 1 ≤ frame.width)
    (hheight : 1 ≤ frame.height) {picture : Picture}
    (hfits : (picture fb.width.toNat fb.height.toNat).size = fb.data.size) :
    ∃ payload, payload = (firstShown settings frame (drawn fb picture)).picture (panel frame) ∧
      payload.size = (panel frame).byteLength ∧
      push s picture = .ok (.ofAnswer (panel frame) (Frame.blit payload (panel frame) frame).1,
        ⟨(Frame.blit payload (panel frame) frame).2,
          (firstShown settings frame (drawn fb picture)).flushed, some (drawn fb picture)⟩) := by
  have wf := firstShown_wellFormed settings frame (drawn fb picture)
  obtain ⟨hwithin, hrect⟩ := firstShown_whole settings (drawn fb picture) hwidth hheight
  have hflush := wf.flush_of_within hwithin frame
  have hsize := wf.picture_size hwithin.rect_inside
  rw [hrect] at hflush hsize
  have hcopy : Session.copyRegion (drawn fb picture) (blank settings frame).markAll 0 0 fb.width
      fb.height = .ok (firstShown settings frame (drawn fb picture)) :=
    Session.copyRegion_eq (blank_wellFormed settings frame) (drawn_wellFormed h.allocated hfits)
      0 0 fb.width fb.height
  have hfb : s.framebuffer = some fb := by rw [h.session]
  refine ⟨_, rfl, hsize, ?_⟩
  rw [push_of_fit hfb hfits, h.session, Session.update, hcopy]
  simp only [bind, Except.bind, hflush]
  rfl

theorem Fresh.push_makes (h : Fresh settings frame fb s) (hwidth : 1 ≤ frame.width)
    (hheight : 1 ≤ frame.height) {picture : Picture}
    (hfits : (picture fb.width.toNat fb.height.toNat).size = fb.data.size) :
    ∃ payload fits turns outcome s',
      payload = (firstShown settings frame (drawn fb picture)).picture (panel frame) ∧
      push s picture = .ok (.ofAnswer (panel frame) outcome.result, s') ∧
      Usb.Dialogue frame.pipe turns s'.screen.pipe ∧
      (Task.blit (panel frame) payload fits).Makes turns outcome := by
  obtain ⟨payload, hpayload, hsize, hpush⟩ := h.push_eq hwidth hheight hfits
  obtain ⟨turns, outcome, hanswer, hturns, hmade⟩ := Frame.blit_makes hsize frame
  rw [hanswer] at hpush
  exact ⟨payload, hsize, turns, outcome, _, hpayload, hpush, hturns, hmade⟩

end CommandLine
end PictureFrame
