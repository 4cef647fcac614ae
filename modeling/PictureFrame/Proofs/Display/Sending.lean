import PictureFrame.Proofs.Display.Pixels
import PictureFrame.Proofs.Display.Reachable

set_option autoImplicit false

namespace PictureFrame.Display

variable {d : Display} {rect : Rect}

/-- The rectangle is the dirty box with exclusive ends, and the payload holds its pixels in tightly
packed rows, the high byte of each first. -/
structure Portrays (d : Display) (rect : Rect) (payload : Bytes) : Prop where
  starts : rect.left = d.dirty.minX ∧ rect.top = d.dirty.minY
  ends : rect.right.toNat = d.dirty.maxX.toNat + 1 ∧ rect.bottom.toNat = d.dirty.maxY.toNat + 1
  size : payload.size = rect.byteLength
  pixels : ∀ x y : UInt16, rect.Contains x.toNat y.toNat → ∃ p, d.pixel x y = .ok (some p) ∧
    payload[2 * ((y.toNat - rect.top.toNat) * (rect.right.toNat - rect.left.toNat) +
      (x.toNat - rect.left.toNat))]? = some p.high ∧
    payload[2 * ((y.toNat - rect.top.toNat) * (rect.right.toNat - rect.left.toNat) +
      (x.toNat - rect.left.toNat)) + 1]? = some p.low

theorem WellFormed.portrays (wf : d.WellFormed)
    (h : d.dirty.Within d.width.toNat d.height.toNat) :
    d.Portrays d.dirty.rect (d.picture d.dirty.rect) := by
  have hinside := h.rect_inside
  refine ⟨⟨rfl, rfl⟩, h.toNat_next, wf.picture_size hinside, fun x y hxy => ?_⟩
  have hpanel : d.OnPanel x.toNat y.toNat := onPanel_of_inside hinside hxy
  have hplace : (y.toNat - d.dirty.rect.top.toNat) * d.dirty.rect.width +
      (x.toNat - d.dirty.rect.left.toNat) < d.dirty.rect.width * d.dirty.rect.height := by
    obtain ⟨hleft, hright, htop, hbottom⟩ := hxy
    apply rowMajor_lt
    · unfold Rect.width
      omega
    · unfold Rect.height
      omega
  have hshown := wf.pixelIn_picture hinside hxy
  rw [Rect.pixelIn, Nat.mul_comm _ 2] at hshown
  refine ⟨d.grid x.toNat y.toNat, wf.pixel_eq hpanel, (Packed.ofBytes_eq_iff ?_).1 hshown⟩
  rw [wf.picture_size hinside, Rect.byteLength]
  change 2 * (_ * d.dirty.rect.width + _) + 1 < _
  omega

variable {σ : Type} [Screen σ]

theorem flush_scratch (h : d.dirty.Within d.width.toNat d.height.toNat) (scratch : Bytes)
    (screen : σ) : ({ d with scratch } : Display).flush screen = d.flush screen := by
  have hshrink : ∀ bytes : Bytes, bytes.shrink 0 = #[] := by simp
  simp only [flush, h.toRect_eq, hshrink]
  rfl

/-- An empty box is not sent and nothing changes. Any other box is sent in one blit, with the pixels
that are stored, and the outcome is the screen's answer. In either case the pixels stay as they are
and the box is empty, so that another flush sends nothing. -/
theorem flush_sends_box (hd : d.Reachable) (screen : Screen.Recorded σ) :
    ∃ outcome d' screen', d.flush screen = .ok (outcome, d', screen') ∧
      (d.dirty.isEmpty = true → outcome = .clean ∧ d' = d ∧ screen' = screen) ∧
      (d.dirty.isEmpty = false → ∃ rect payload answer, d.Portrays rect payload ∧
        Screen.blit payload rect screen.screen = (answer, screen'.screen) ∧
        screen'.blits = screen.blits ++ [(rect, payload)] ∧
        (∀ code, answer = .ok code → outcome = .sent rect code) ∧
        (∀ fault, answer = .error fault → outcome = .dropped rect) ∧
        ∀ scratch : Bytes,
          ({ d with scratch } : Display).flush screen = .ok (outcome, d', screen')) ∧
      SamePixels d d' ∧ d'.dirty = .empty ∧
      ∀ again : Screen.Recorded σ, d'.flush again = .ok (.clean, d', again) := by
  have wf := hd.wellFormed
  rcases wf.flush_cases screen with ⟨hempty, hflush⟩ | ⟨hwithin, hflush⟩
  · refine ⟨_, _, _, hflush, fun _ => ⟨rfl, rfl, rfl⟩, fun hfull => ?_, .refl d, hempty,
      flush_of_empty hempty⟩
    rw [hempty] at hfull
    cases hfull
  · refine ⟨_, _, _, hflush, fun hnone => ?_, fun _ => ?_, samePixels_flushed d, rfl,
      flush_of_empty rfl⟩
    · have hrect := hwithin.toRect_eq
      rw [DirtyBox.toRect, if_pos hnone] at hrect
      cases hrect
    · refine ⟨_, _, (Screen.blit (d.picture d.dirty.rect) d.dirty.rect screen).1,
        wf.portrays hwithin, rfl, rfl, fun code hcode => ?_, fun fault hfault => ?_, fun scratch => ?_⟩
      · exact Flush.ofAnswer_eq_sent.2 hcode
      · exact Flush.ofAnswer_eq_dropped.2 ⟨fault, hfault⟩
      · rw [flush_scratch hwithin, hflush]

theorem flush_sends_box_again : ∃ (d d' : Display)
    (screen screen' : Screen.Recorded Screen.Script) (payload : Bytes), d.Reachable ∧
    d.scratch.size = 6 ∧ d.dirty.isEmpty = false ∧
    d.flush screen = .ok (.dropped ⟨1, 0, 2, 1⟩, d', screen') ∧
    d.Portrays ⟨1, 0, 2, 1⟩ payload ∧ screen'.blits = [(⟨1, 0, 2, 1⟩, payload)] ∧
    d'.dirty = .empty := by
  have hrun : ∃ (d₁ d₂ d d' : Display) (screen screen' : Screen.Recorded Screen.Script),
      (withCanvas 3 1 3 1).markAll.flush (⟨⟨[]⟩, []⟩ : Screen.Recorded Screen.Script) =
        .ok (.sent ⟨0, 0, 3, 1⟩ 0, d₁, ⟨⟨[]⟩, [(⟨0, 0, 3, 1⟩, #[0, 0, 0, 0, 0, 0])]⟩) ∧
      d₁.setPixel 1 0 (.solid 255 0 0) = .ok d₂ ∧ d = d₂ ∧ d.scratch.size = 6 ∧
      d.dirty.isEmpty = false ∧ screen = ⟨⟨[.error (.usb .timeout)]⟩, []⟩ ∧
      d.flush screen = .ok (.dropped ⟨1, 0, 2, 1⟩, d', screen') :=
    ⟨_, _, _, _, _, _, rfl, rfl, rfl, rfl, rfl, rfl, rfl⟩
  obtain ⟨d₁, d₂, d, d', screen, screen', hfirst, hdraw, rfl, hscratch, hfull, rfl, hflush⟩ := hrun
  have hd : d.Reachable := .setPixel 1 0 _ (.flush (.markAll (.withCanvas 3 1 3 1)) hfirst) hdraw
  obtain ⟨_, _, _, heq, -, hsent, -, hempty, -⟩ :=
    flush_sends_box hd (⟨⟨[.error (.usb .timeout)]⟩, []⟩ : Screen.Recorded Screen.Script)
  cases hflush.symm.trans heq
  obtain ⟨rect, payload, answer, hportrays, hblit, hblits, hok, hfault, -⟩ := hsent hfull
  have hanswer : .error (.usb .timeout) = answer := congrArg Prod.fst hblit
  cases hfault _ hanswer.symm
  exact ⟨d, d', _, screen', payload, hd, hscratch, hfull, hflush, hportrays, hblits, hempty⟩

end PictureFrame.Display
