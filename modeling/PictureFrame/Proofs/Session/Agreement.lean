import PictureFrame.Proofs.Session.Run

set_option autoImplicit false

namespace PictureFrame.Session

variable {σ : Type} [Screen σ]

/-- The operation writes a byte of the framebuffer's pixel or replaces the framebuffer. -/
def Op.Writes (op : Op) (fb : Framebuffer) (u v : Nat) : Prop :=
  (∃ width height, op = .allocate width height) ∨
    ∃ start bytes, op.span fb = some (start, bytes) ∧ fb.Overlaps start bytes.length u v

/-- The framebuffer's pixel was written after the last announcement of a region with it. -/
def WrittenSince (s₀ : Session σ) (ops : List Op) (u v : Nat) : Prop :=
  ∃ before op after outcomes s fb, ops = before ++ op :: after ∧
    run before s₀ = .ok (outcomes, s) ∧ s.framebuffer = some fb ∧ op.Writes fb u v ∧
      ∀ later ∈ after, ¬ later.Announces u v

theorem WrittenSince.concat {s₀ : Session σ} {ops : List Op} {u v : Nat} {op : Op}
    (h : WrittenSince s₀ ops u v) (hop : ¬ op.Announces u v) :
    WrittenSince s₀ (ops ++ [op]) u v := by
  obtain ⟨before, writer, after, outcomes, s, fb, rfl, hrun, hfb, hwrites, hafter⟩ := h
  refine ⟨before, writer, after ++ [op], outcomes, s, fb, ?_, hrun, hfb, hwrites, ?_⟩
  · rw [List.append_assoc, List.cons_append]
  · intro later hlater
    rcases List.mem_append.1 hlater with hlater | hlater
    · exact hafter later hlater
    · rw [List.mem_singleton.1 hlater]
      exact hop

theorem writtenSince_now {s₀ s : Session σ} {ops : List Op} {outcomes : List Flush} {op : Op}
    {fb : Framebuffer} {u v : Nat} (hrun : run ops s₀ = .ok (outcomes, s))
    (hfb : s.framebuffer = some fb) (hop : op.Writes fb u v) :
    WrittenSince s₀ (ops ++ [op]) u v :=
  ⟨ops, op, [], outcomes, s, fb, rfl, hrun, hfb, hop, fun _ hmem => absurd hmem List.not_mem_nil⟩

def Op.OnCanvas (canvasWidth canvasHeight : Nat) : Op → Prop
  | .allocate width height => width.toNat ≤ canvasWidth ∧ height.toNat ≤ canvasHeight
  | _ => True

/-- The display agrees with the framebuffer where it was not written since, and is black before
the first allocation. -/
structure Agrees (s₀ : Session σ) (ops : List Op) (s : Session σ) : Prop where
  canvas : s.display.canvasWidth = s₀.display.canvasWidth ∧
    s.display.canvasHeight = s₀.display.canvasHeight
  fits : ∀ fb, s.framebuffer = some fb → OnCanvas fb s.display
  black : s.framebuffer = none → ∀ u v, s.display.OnPanel u v → s.display.grid u v = ⟨0, 0⟩
  pixel : ∀ fb, s.framebuffer = some fb → ∀ u v, s.display.OnPanel u v → u < fb.width.toNat →
    v < fb.height.toNat →
      s.display.grid u v = (fb.color u v).packed ∨ WrittenSince s₀ ops u v

variable {s₀ s s' : Session σ} {ops : List Op} {outcomes : List Flush}

theorem Agrees.of_framebuffer {fb : Framebuffer} (hfb : s.framebuffer = some fb)
    (hcanvas : s.display.canvasWidth = s₀.display.canvasWidth ∧
      s.display.canvasHeight = s₀.display.canvasHeight) (hfit : OnCanvas fb s.display)
    (hpixel : ∀ u v, s.display.OnPanel u v → u < fb.width.toNat → v < fb.height.toNat →
      s.display.grid u v = (fb.color u v).packed ∨ WrittenSince s₀ ops u v) : Agrees s₀ ops s := by
  refine ⟨hcanvas, ?_, ?_, ?_⟩
  · intro current hcurrent
    rw [hfb] at hcurrent
    cases hcurrent
    exact hfit
  · intro hnone
    rw [hfb] at hnone
    cases hnone
  · intro current hcurrent
    rw [hfb] at hcurrent
    cases hcurrent
    exact hpixel

theorem Agrees.allocate (h : Agrees s₀ ops s) (hrun : run ops s₀ = .ok (outcomes, s))
    {width height : UInt32} {fb : Framebuffer} (hfb : Framebuffer.new width height = .ok fb)
    (hfit : (Op.allocate width height).OnCanvas s₀.display.canvasWidth.toNat
      s₀.display.canvasHeight.toNat) :
    Agrees s₀ (ops ++ [.allocate width height]) { s with framebuffer := some fb } := by
  obtain ⟨-, hwidth, hheight, hblack⟩ := Framebuffer.new_eq_ok hfb
  refine .of_framebuffer rfl h.canvas ?_ ?_
  · rw [OnCanvas, hwidth, hheight, h.canvas.1, h.canvas.2]
    exact hfit
  · intro u v huv _ _
    cases hold : s.framebuffer with
    | none =>
      left
      rw [hblack]
      exact h.black hold u v huv
    -- Any later allocation counts as a write of every pixel.
    | some old => exact .inr (writtenSince_now hrun hold (.inl ⟨width, height, rfl⟩))

theorem Op.not_announces_of_span {op : Op} {fb : Framebuffer} {span : Nat × List UInt8}
    (h : op.span fb = some span) (u v : Nat) : ¬ op.Announces u v := by
  intro hop
  obtain ⟨x, y, width, height, rfl, -⟩ := hop
  cases h

theorem Agrees.edit (h : Agrees s₀ ops s) (hrun : run ops s₀ = .ok (outcomes, s)) {op : Op}
    {fb fb' : Framebuffer} {start : Nat} {bytes : List UInt8} (hfb : s.framebuffer = some fb)
    (hspan : op.span fb = some (start, bytes)) (hw : Framebuffer.Written fb fb' start bytes) :
    Agrees s₀ (ops ++ [op]) { s with framebuffer := some fb' } := by
  refine .of_framebuffer rfl h.canvas ?_ ?_
  · rw [OnCanvas, hw.size.1, hw.size.2]
    exact h.fits fb hfb
  · intro u v huv hu hv
    rw [hw.size.1] at hu
    rw [hw.size.2] at hv
    by_cases hover : fb.Overlaps start bytes.length u v
    · exact .inr (writtenSince_now hrun hfb (.inr ⟨start, bytes, hspan, hover⟩))
    · rw [hw.color_eq hover]
      apply (h.pixel fb hfb u v huv hu hv).imp_right
      intro hsince
      exact hsince.concat (op.not_announces_of_span hspan u v)

/-- Nothing but an announcement of the pixel's region clears its earlier writes. -/
theorem Agrees.quiet (h : Agrees s₀ ops s) {op : Op}
    (hop : ∀ fb, s.framebuffer = some fb → ∀ u v, ¬ op.Announces u v) :
    Agrees s₀ (ops ++ [op]) s := by
  refine ⟨h.canvas, h.fits, h.black, ?_⟩
  intro fb hfb u v huv hu hv
  apply (h.pixel fb hfb u v huv hu hv).imp_right
  intro hsince
  exact hsince.concat (hop fb hfb u v)

theorem Agrees.update (h : Agrees s₀ ops s) (wf : s.WellFormed) {x y width height : UInt32}
    {fb : Framebuffer} (hfb : s.framebuffer = some fb) {d : Display} {screen : σ}
    (hcanvas : d.canvasWidth = s.display.canvasWidth ∧ d.canvasHeight = s.display.canvasHeight)
    (hsize : ∀ u v, d.OnPanel u v ↔ s.display.OnPanel u v)
    (hgrid : ∀ u v, d.grid u v =
      (copied fb (positions fb x y width height) s.display).grid u v) :
    Agrees s₀ (ops ++ [.update x y width height]) ⟨screen, d, some fb⟩ := by
  have hfit := h.fits fb hfb
  refine .of_framebuffer rfl ⟨hcanvas.1.trans h.canvas.1, hcanvas.2.trans h.canvas.2⟩ ?_ ?_
  · rw [OnCanvas, hcanvas.1, hcanvas.2]
    exact hfit
  · intro u v huv hu hv
    have hold := (hsize u v).1 huv
    rw [hgrid]
    by_cases hregion : InRegion x y width height u v
    · exact .inl (grid_copied_of_inRegion wf.display hfit hold hu hv hregion)
    · rw [grid_copied_of_not_inRegion wf.display hfit hold hregion]
      apply (h.pixel fb hfb u v hold hu hv).imp_right
      intro hsince
      apply hsince.concat
      intro hop
      obtain ⟨_, _, _, _, heq, hin⟩ := hop
      cases heq
      exact hregion hin

theorem Op.IsEdit.not_announces {op : Op} (h : op.IsEdit) (u v : Nat) : ¬ op.Announces u v := by
  intro hop
  obtain ⟨x, y, width, height, rfl, -⟩ := hop
  exact h

theorem Agrees.step (h : Agrees s₀ ops s) (wf : s.WellFormed)
    (hrun : run ops s₀ = .ok (outcomes, s)) {op : Op} {o : Option Flush} (hstep : Step s op o s')
    (hfit : op.OnCanvas s₀.display.canvasWidth.toNat s₀.display.canvasHeight.toNat) :
    Agrees s₀ (ops ++ [op]) s' := by
  cases hstep with
  | allocate allocated => exact h.allocate hrun allocated hfit
  | edit current span written => exact h.edit hrun current span written
  | idle edit nothing => exact h.quiet fun _ _ => edit.not_announces
  | early unallocated =>
    apply h.quiet
    intro fb hfb
    rw [unallocated] at hfb
    cases hfb
  | @clean x y width height fb current unchanged =>
    have ht := tracks_copied wf.display fb (positions fb x y width height)
    rw [current]
    exact h.update wf current ht.canvas ht.onPanel fun u v => rfl
  | @sent x y width height fb d answer screen current copied dirty blit =>
    have ht := tracks_copied wf.display fb (positions fb x y width height)
    subst copied
    exact h.update wf current ht.canvas ht.onPanel fun u v => rfl

theorem start_agrees (width height canvasWidth canvasHeight : UInt16) (screen : σ) :
    Agrees (start screen (.withCanvas width height canvasWidth canvasHeight)) []
      (start screen (.withCanvas width height canvasWidth canvasHeight)) := by
  refine ⟨⟨rfl, rfl⟩, nofun, ?_, nofun⟩
  intro _ u v _
  exact (Display.grid_markAll u v).trans (Display.grid_withCanvas _ _ _ _ u v)

theorem run_agrees (hstart : Agrees s₀ [] s₀) (wf : s₀.WellFormed)
    (hfit : ∀ op ∈ ops, op.OnCanvas s₀.display.canvasWidth.toNat s₀.display.canvasHeight.toNat)
    (h : run ops s₀ = .ok (outcomes, s)) : Agrees s₀ ops s := by
  refine run_induction (P := fun ops _ s => (∀ op ∈ ops, op.OnCanvas s₀.display.canvasWidth.toNat
    s₀.display.canvasHeight.toNat) → Agrees s₀ ops s) (fun _ => hstart) ?_ h hfit
  intro ops outcomes s op o s' hrun hagrees hperform hfit
  have hs := run_wellFormed wf hrun
  have hbefore := hagrees fun op hop => hfit op (List.mem_append_left _ hop)
  exact hbefore.step hs hrun (hs.step hperform)
    (hfit op (List.mem_append_right ops List.mem_cons_self))

/-- After every operation the session goes on, and each pixel of the panel that the framebuffer has
is stored as the framebuffer has it unless it was written since it was last announced. -/
theorem display_agrees (width height canvasWidth canvasHeight : UInt16) (screen : σ)
    (hfit : ∀ op ∈ ops, op.OnCanvas (max canvasWidth 1).toNat (max canvasHeight 1).toNat)
    (h : run ops (start screen (.withCanvas width height canvasWidth canvasHeight)) =
      .ok (outcomes, s)) :
    (∀ op : Op, op.Legal s.framebuffer → ∃ o s', s.perform op = .ok (o, s')) ∧
    ∀ fb, s.framebuffer = some fb → ∀ x y : UInt16, x < width → y < height →
      x.toUInt32 < fb.width → y.toUInt32 < fb.height →
        ∃ color, fb.pixel x.toUInt32 y.toUInt32 = .ok (some color) ∧
          (s.display.pixel x y = .ok (some color.packed) ∨
            WrittenSince (start screen (.withCanvas width height canvasWidth canvasHeight)) ops
              x.toNat y.toNat) := by
  have hnew := Display.withCanvas_wellFormed width height canvasWidth canvasHeight
  have hstart := start_wellFormed hnew screen
  have hcanvas := Display.markAll_canvas (.withCanvas width height canvasWidth canvasHeight)
  have wf := run_wellFormed hstart h
  refine ⟨fun op hop => wf.perform_ok hop, ?_⟩
  intro fb hfb x y hx hy hxfb hyfb
  refine ⟨fb.color x.toNat y.toNat, ?_, ?_⟩
  · rw [(wf.framebuffer fb hfb).pixel_eq, if_pos ⟨hxfb, hyfb⟩]
    rfl
  · have hagrees := run_agrees (start_agrees _ _ _ _ screen) hstart
      (by rwa [start, hcanvas.1, hcanvas.2]) h
    have hxy := run_onPanel hnew h hx hy
    rw [wf.display.pixel_eq hxy]
    rcases hagrees.pixel fb hfb x.toNat y.toNat hxy hxfb hyfb with heq | hsince
    · left
      rw [heq]
    · exact .inr hsince

theorem display_agrees_two_pixels :
    ∃ s fb, run [.allocate 2 1, .setPixel 1 0 (.solid 255 0 0), .update 1 0 1 1,
        .write 0 [0, 255, 0, 0]]
      (start (⟨[]⟩ : Screen.Script) (.withCanvas 2 1 2 1)) = .ok ([.sent ⟨0, 0, 2, 1⟩ 0], s) ∧
      s.framebuffer = some fb ∧ ∀ x y : UInt16, x < 2 → y < 1 →
        ∃ color, fb.pixel x.toUInt32 y.toUInt32 = .ok (some color) ∧
          (s.display.pixel x y = .ok (some color.packed) ∨
            WrittenSince (start (⟨[]⟩ : Screen.Script) (.withCanvas 2 1 2 1))
              [.allocate 2 1, .setPixel 1 0 (.solid 255 0 0), .update 1 0 1 1,
                .write 0 [0, 255, 0, 0]] x.toNat y.toNat) := by
  have hrun : ∃ s fb, run [.allocate 2 1, .setPixel 1 0 (.solid 255 0 0), .update 1 0 1 1,
      .write 0 [0, 255, 0, 0]] (start (⟨[]⟩ : Screen.Script) (.withCanvas 2 1 2 1)) =
        .ok ([.sent ⟨0, 0, 2, 1⟩ 0], s) ∧ s.framebuffer = some fb ∧ fb.width = 2 ∧ fb.height = 1 :=
    ⟨_, _, rfl, rfl, rfl, rfl⟩
  obtain ⟨s, fb, hs, hfb, hwidth, hheight⟩ := hrun
  refine ⟨s, fb, hs, hfb, ?_⟩
  intro x y hx hy
  have hx32 : x.toUInt32 < fb.width := by rwa [hwidth]
  have hy32 : y.toUInt32 < fb.height := by rwa [hheight]
  have hagrees := display_agrees 2 1 2 1 _ (by simp [Op.OnCanvas, toNat_max16]) hs
  exact hagrees.2 fb hfb x y hx hy hx32 hy32

end PictureFrame.Session
