import PictureFrame.Proofs.Display.Reachable

set_option autoImplicit false

namespace PictureFrame.Display

inductive Op
  | setPixel (x y : UInt32) (color : Color)
  | pixel (x y : UInt16)
  | markAll
  | flush
  deriving DecidableEq, Repr

inductive Answer
  | done
  | pixel (value : Option Packed)
  | flush (outcome : Flush)
  deriving DecidableEq, Repr

variable {σ : Type} [Screen σ]

def perform (d : Display) (screen : σ) : Op → Checked (Answer × Display × σ)
  | .setPixel x y color => do return (.done, ← d.setPixel x y color, screen)
  | .pixel x y => do return (.pixel (← d.pixel x y), d, screen)
  | .markAll => return (.done, d.markAll, screen)
  | .flush => do
    let (outcome, d, screen) ← d.flush screen
    return (.flush outcome, d, screen)

def run : List Op → Display → σ → Checked (List Answer × Display × σ)
  | [], d, screen => .ok ([], d, screen)
  | op :: rest, d, screen => do
    let (answer, d, screen) ← d.perform screen op
    let (answers, d, screen) ← run rest d screen
    return (answer :: answers, d, screen)

variable {d : Display}

omit [Screen σ] in
theorem draw_size (d : Display) (x y : UInt32) (color : Color) :
    (d.draw x y color).width = d.width ∧ (d.draw x y color).height = d.height := by
  unfold draw
  split
  · exact paint_size _ _ _
  · exact ⟨rfl, rfl⟩

theorem WellFormed.pixel_ok (wf : d.WellFormed) (x y : UInt16) : d.pixel x y =
    .ok (if x < d.width ∧ y < d.height then some (d.grid x.toNat y.toNat) else none) := by
  by_cases h : x < d.width ∧ y < d.height
  · rw [wf.pixel_eq h, if_pos h]
  · rw [pixel, if_neg h, if_neg h]

theorem WellFormed.flush_ok (wf : d.WellFormed) (screen : σ) :
    ∃ outcome d' screen', d.flush screen = .ok (outcome, d', screen') ∧ d'.WellFormed ∧
      d'.width = d.width ∧ d'.height = d.height := by
  rcases wf.flush_cases screen with ⟨-, hflush⟩ | ⟨hwithin, hflush⟩
  · exact ⟨_, _, _, hflush, wf, rfl, rfl⟩
  · exact ⟨_, _, _, hflush, wf.flushed hwithin, rfl, rfl⟩

theorem WellFormed.perform_ok (wf : d.WellFormed) (screen : σ) (op : Op) :
    ∃ answer d' screen', d.perform screen op = .ok (answer, d', screen') ∧ d'.WellFormed ∧
      d'.width = d.width ∧ d'.height = d.height := by
  cases op with
  | setPixel x y color =>
    refine ⟨.done, d.draw x y color, screen, ?_, wf.draw x y color, draw_size d x y color⟩
    rw [perform, wf.setPixel_eq]
    rfl
  | pixel x y =>
    obtain ⟨value, hvalue⟩ : ∃ value, d.pixel x y = .ok value := ⟨_, wf.pixel_ok x y⟩
    refine ⟨.pixel value, d, screen, ?_, wf, rfl, rfl⟩
    rw [perform, hvalue]
    rfl
  | markAll => exact ⟨.done, d.markAll, screen, rfl, wf.markAll, markAll_size d⟩
  | flush =>
    obtain ⟨outcome, d', screen', hflush, hkept⟩ := wf.flush_ok screen
    refine ⟨.flush outcome, d', screen', ?_, hkept⟩
    rw [perform, hflush]
    rfl

theorem run_ok_of_perform_ok {P : Display → Prop}
    (step : ∀ d, P d → ∀ (screen : σ) (op : Op), ∃ answer d' screen',
      d.perform screen op = .ok (answer, d', screen') ∧ P d')
    (hd : P d) (screen : σ) (ops : List Op) :
    ∃ answers d' screen', run ops d screen = .ok (answers, d', screen') ∧ P d' := by
  induction ops generalizing d screen with
  | nil => exact ⟨[], d, screen, rfl, hd⟩
  | cons op ops ih =>
    obtain ⟨answer, d₁, screen₁, hperform, hd₁⟩ := step d hd screen op
    obtain ⟨answers, d₂, screen₂, hrun, hd₂⟩ := ih hd₁ screen₁
    refine ⟨answer :: answers, d₂, screen₂, ?_, hd₂⟩
    simp only [run, hperform, hrun, bind, Except.bind, pure, Except.pure]

theorem WellFormed.run_ok (wf : d.WellFormed) (screen : σ) (ops : List Op) :
    ∃ answers d' screen', run ops d screen = .ok (answers, d', screen') ∧ d'.WellFormed ∧
      d'.width = d.width ∧ d'.height = d.height := by
  refine run_ok_of_perform_ok (P := fun e => e.WellFormed ∧ e.width = d.width ∧ e.height = d.height)
    ?_ ⟨wf, rfl, rfl⟩ screen ops
  rintro e ⟨wfe, hwidth, hheight⟩ screen op
  obtain ⟨answer, e', screen', hperform, wf', hwidth', hheight'⟩ := wfe.perform_ok screen op
  exact ⟨answer, e', screen', hperform, wf', hwidth'.trans hwidth, hheight'.trans hheight⟩

theorem WellFormed.toRect_ok (wf : d.WellFormed) : ∃ rect, d.dirty.toRect = .ok rect := by
  rcases wf.dirty_inside with hempty | hwithin
  · exact ⟨none, by rw [hempty, DirtyBox.empty_toRect]⟩
  · exact ⟨_, hwithin.toRect_eq⟩

/-- Every run of operations on a new display ends, without stopping the program, in buffers of the
panel's size, a canvas to divide by, and a dirty box that is the empty one or lies on the panel and
so has exclusive ends. -/
theorem run_withCanvas_ok (width height canvasWidth canvasHeight : UInt16) (screen : σ)
    (ops : List Op) : ∃ answers d screen',
      run ops (withCanvas width height canvasWidth canvasHeight) screen =
        .ok (answers, d, screen') ∧
      d.resident.size = width.toNat * height.toNat * 2 ∧
      d.scratch.size ≤ width.toNat * height.toNat * 2 ∧
      (d.dirty = ⟨0xFFFF, 0, 0xFFFF, 0⟩ ∨ d.dirty.minX ≤ d.dirty.maxX ∧ d.dirty.maxX < width ∧
        d.dirty.minY ≤ d.dirty.maxY ∧ d.dirty.maxY < height) ∧
      d.canvasWidth ≠ 0 ∧ d.canvasHeight ≠ 0 ∧ ∃ rect, d.dirty.toRect = .ok rect := by
  have hnew := withCanvas_wellFormed width height canvasWidth canvasHeight
  obtain ⟨answers, d, screen', hrun, wf, hwidth, hheight⟩ := hnew.run_ok screen ops
  replace hwidth : d.width = width := hwidth
  replace hheight : d.height = height := hheight
  refine ⟨answers, d, screen', hrun, ?_, ?_, ?_, ?_, ?_, wf.toRect_ok⟩
  · rw [wf.resident_size, hwidth, hheight]
  · rw [← hwidth, ← hheight]
    exact wf.scratch_size
  · rw [← hwidth, ← hheight]
    exact wf.dirty_inside
  · intro hzero
    simpa [hzero] using wf.canvasWidth_pos
  · intro hzero
    simpa [hzero] using wf.canvasHeight_pos

end PictureFrame.Display
