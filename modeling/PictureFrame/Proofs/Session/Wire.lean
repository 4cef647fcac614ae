import PictureFrame.Proofs.Envelope
import PictureFrame.Proofs.Frame
import PictureFrame.Proofs.Session.Run

set_option autoImplicit false

namespace PictureFrame

namespace Session

variable {π : Type} [Usb.Pipe π]

theorem update_reaches {s s' : Session (Frame π)} {x y width height : UInt32} {outcome : Flush}
    (h : s.update x y width height = .ok (outcome, s')) :
    Usb.Reaches s.screen.pipe s'.screen.pipe := by
  obtain ⟨screen, display, framebuffer⟩ := s
  cases framebuffer with
  | none =>
    cases h
    exact .refl _
  | some fb =>
    obtain ⟨copied, -, h⟩ := Checked.bind_eq_ok.1 h
    obtain ⟨⟨o, d, screen'⟩, hflush, h⟩ := Checked.bind_eq_ok.1 h
    cases h
    rcases Display.flush_screen hflush with rfl | ⟨payload, rect, rfl⟩
    · exact .refl _
    · exact Frame.blit_reaches payload rect screen

/-- The block and the payload of a blit that shows the display's pixels from one corner to another,
both of them included. -/
structure Depicts (d : Display) (block : CommandBlock) (payload : Bytes)
    (left top right bottom : UInt16) : Prop where
  decoded : Request.ofBlock? block = some (.blit ⟨left, top, right + 1, bottom + 1⟩)
  corners : Request.argument block 0 = left ∧ Request.argument block 1 = top ∧
    Request.argument block 2 = right ∧ Request.argument block 3 = bottom
  columns : left ≤ right ∧ right < d.width
  rows : top ≤ bottom ∧ bottom < d.height
  unwrapped : (right + 1).toNat = right.toNat + 1 ∧ (bottom + 1).toNat = bottom.toNat + 1
  size : payload.size =
    2 * (right.toNat - left.toNat + 1) * (bottom.toNat - top.toNat + 1)
  pixels : ∀ x y : UInt16, left ≤ x → x ≤ right → top ≤ y → y ≤ bottom → d.pixel x y =
    .ok (some (.ofBytes payload (2 * ((y.toNat - top.toNat) * (right.toNat - left.toNat + 1) +
      (x.toNat - left.toNat)))))

theorem depicts_dirty {d : Display} (wf : d.WellFormed)
    (h : d.dirty.Within d.width.toNat d.height.toNat) :
    Depicts d.flushed (Request.blit d.dirty.rect).block (d.picture d.dirty.rect)
      d.dirty.minX d.dirty.minY d.dirty.maxX d.dirty.maxY := by
  obtain ⟨hright, hbottom⟩ := h.toNat_next
  have hblock : (Request.blit d.dirty.rect).block = Request.extended Request.blitOpcode
      d.dirty.minX d.dirty.minY d.dirty.maxX d.dirty.maxY := by
    simp only [Request.block, DirtyBox.rect, UInt16.add_sub_cancel]
  have hargument := Request.argument_extended Request.blitOpcode d.dirty.minX d.dirty.minY
    d.dirty.maxX d.dirty.maxY
  have hwidth : d.dirty.rect.width = d.dirty.maxX.toNat - d.dirty.minX.toNat + 1 := by
    have hle := h.1
    simp only [Rect.width, DirtyBox.rect, hright]
    omega
  have hheight : d.dirty.rect.height = d.dirty.maxY.toNat - d.dirty.minY.toNat + 1 := by
    have hle := h.2.2.1
    simp only [Rect.height, DirtyBox.rect, hbottom]
    omega
  refine ⟨Request.ofBlock?_blit _, ?_, ⟨h.1, h.2.1⟩, ⟨h.2.2.1, h.2.2.2⟩, ⟨hright, hbottom⟩, ?_,
    ?_⟩
  · rw [hblock]
    exact ⟨hargument 0, hargument 1, hargument 2, hargument 3⟩
  · rw [wf.picture_size h.rect_inside, Rect.byteLength, hwidth, hheight, Nat.mul_comm,
      Nat.mul_assoc]
  · intro x y hleft hright' htop hbottom'
    have hbox : d.dirty.Contains x.toNat y.toNat := ⟨hleft, hright', htop, hbottom'⟩
    have hshown := wf.pixel_flushed h ((h.contains_rect _ _).2 hbox)
    rwa [Rect.pixelIn, hwidth, Nat.mul_comm _ 2] at hshown

/-- What an update does to the pipe of a frame: nothing, or one exchange that shows the display's
pixels and ends as the update reports. -/
inductive OnWire (s s' : Session (Frame (Usb.Recorded π))) : Flush → Prop
  | silent (unused : s'.screen = s.screen) : OnWire s s' .clean
  | exchanged {left top right bottom : UInt16} {block : CommandBlock} {payload : Bytes}
      {turns : List Usb.Turn} {result : Exchange.Outcome} {outcome : Flush}
      (depicts : Depicts s'.display block payload left top right bottom)
      (blit : Frame.blit payload ⟨left, top, right + 1, bottom + 1⟩ s.screen =
        (result.result, s'.screen))
      (fits : ∀ expected actual, result.result ≠ .error (.pixelData expected actual))
      (ran : Exchange.run block (.send payload) s.screen.pipe = (result, s'.screen.pipe))
      (calls : s'.screen.pipe.calls = s.screen.pipe.calls ++ turns.map Usb.Turn.call)
      (conforms : Exchange.Conforms block (.send payload) turns result)
      (sent : ∀ code, outcome = .sent ⟨left, top, right + 1, bottom + 1⟩ code ↔
        result.result = .ok code)
      (dropped : outcome = .dropped ⟨left, top, right + 1, bottom + 1⟩ ↔
        ∃ fault, result.result = .error fault) : OnWire s s' outcome

theorem Step.onWire {s s' : Session (Frame (Usb.Recorded π))} {x y w t : UInt32} {outcome : Flush}
    (h : Step s (.update x y w t) (some outcome) s') (wf : s.WellFormed) :
    OnWire s s' outcome := by
  cases h with
  | early unallocated => exact .silent rfl
  | clean current unchanged => exact .silent rfl
  | @sent x y w t fb d answer screen current copied dirty blit =>
    have hd : d.WellFormed := copied ▸ copied_wellFormed wf.display fb _
    have hblit := Frame.blit_eq (hd.picture_size dirty.rect_inside) s.screen
    obtain ⟨turns, -, hcalls, hconforms⟩ := Exchange.exists_conforms_recorded
      (Request.blit d.dirty.rect).block (.send (d.picture d.dirty.rect)) s.screen.pipe
    cases blit.symm.trans hblit
    refine .exchanged (depicts_dirty hd dirty) hblit ?_ rfl hcalls hconforms
      (fun code => Flush.ofAnswer_eq_sent) Flush.ofAnswer_eq_dropped
    intro expected actual hfault
    cases hconforms.trouble hfault

/-- In every run of a session on a frame, an update makes no call or those of one exchange that
shows the display's pixels of a rectangle on the panel, and its outcome is that of the exchange. -/
theorem update_on_wire {frame : Frame (Usb.Recorded π)}
    {width height canvasWidth canvasHeight : UInt16} {ops : List Op} {outcomes : List Flush}
    {s : Session (Frame (Usb.Recorded π))}
    (h : run ops (start frame (.withCanvas width height canvasWidth canvasHeight)) =
      .ok (outcomes, s)) (x y w t : UInt32) :
    ∃ outcome s', s.update x y w t = .ok (outcome, s') ∧
      s'.display.width = width ∧ s'.display.height = height ∧ OnWire s s' outcome := by
  have hnew := Display.withCanvas_wellFormed width height canvasWidth canvasHeight
  have hstart := start_wellFormed hnew frame
  have wf := run_wellFormed hstart h
  obtain ⟨outcome, s', hupdate, hstep⟩ := wf.update_step x y w t
  have hkept := hstep.size wf
  have hpanel := run_size hstart h
  have hmarked := start_size (.withCanvas width height canvasWidth canvasHeight) frame
  exact ⟨outcome, s', hupdate, (hkept.1.trans hpanel.1).trans hmarked.1,
    (hkept.2.trans hpanel.2).trans hmarked.2, hstep.onWire wf⟩

theorem update_on_wire_two_pixels : ∃ s s' : Session (Frame (Usb.Recorded Usb.Script)),
    run [.allocate 2 1]
      (start ⟨⟨⟨[.ok #[0x55, 0x53, 0x42, 0x53, 0, 0, 0, 0, 0, 0, 0, 0, 3]], []⟩, []⟩, 2, 1⟩
        (.withCanvas 2 1 2 1)) = .ok ([], s) ∧
    s.update 5 5 0 0 = .ok (.sent ⟨0, 0, 2, 1⟩ 3, s') ∧
    s'.display.width = 2 ∧ s'.display.height = 1 ∧ OnWire s s' (.sent ⟨0, 0, 2, 1⟩ 3) := by
  have hrun : ∃ s s' : Session (Frame (Usb.Recorded Usb.Script)),
      run [.allocate 2 1]
        (start ⟨⟨⟨[.ok #[0x55, 0x53, 0x42, 0x53, 0, 0, 0, 0, 0, 0, 0, 0, 3]], []⟩, []⟩, 2, 1⟩
          (.withCanvas 2 1 2 1)) = .ok ([], s) ∧
      s.update 5 5 0 0 = .ok (.sent ⟨0, 0, 2, 1⟩ 3, s') := ⟨_, _, rfl, rfl⟩
  obtain ⟨s, s', hs, hupdate⟩ := hrun
  obtain ⟨outcome, t, ht, hwidth, hheight, hwire⟩ := update_on_wire hs 5 5 0 0
  rw [hupdate] at ht
  cases ht
  exact ⟨s, s', hs, hupdate, hwidth, hheight, hwire⟩

end Session
end PictureFrame
