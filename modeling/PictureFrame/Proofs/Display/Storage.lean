import Mathlib.Order.Interval.Set.Basic
import PictureFrame.Proofs.Display.Operations
import PictureFrame.Proofs.Display.Pixels

set_option autoImplicit false

namespace PictureFrame.Display

variable {d d' : Display} {width height canvasWidth canvasHeight : UInt16}

def slot (d : Display) (x y : UInt16) : Set Nat :=
  Set.Ico (d.offset x.toNat y.toNat) (d.offset x.toNat y.toNat + 2)

/-- The buffer is a grid of pixels of two bytes, which is drawn on through a canvas. -/
structure IsGrid (d : Display) (width height canvasWidth canvasHeight : UInt16) : Prop where
  size : d.resident.size = width.toNat * height.toNat * 2
  slots_disjoint : ∀ x y u v, x < width → y < height → u < width → v < height →
    (u, v) ≠ (x, y) → ∀ i ∈ d.slot x y, i ∉ d.slot u v
  slots_cover : ∀ i, i < d.resident.size ↔ ∃ x y, x < width ∧ y < height ∧ i ∈ d.slot x y
  pixel : ∀ x y p, d.pixel x y = .ok (some p) ↔ (x < width ∧ y < height) ∧
    d.resident[d.offset x.toNat y.toNat]? = some p.high ∧
    d.resident[d.offset x.toNat y.toNat + 1]? = some p.low
  setPixel : ∀ (x y : UInt32) (color : Color), ∃ d', d.setPixel x y color = .ok d' ∧
    (∀ u v : UInt16, u < width → v < height → u.toNat = x.toNat % canvasWidth.toNat →
      v.toNat = y.toNat % canvasHeight.toNat → d'.pixel u v = .ok (some color.packed)) ∧
    (∀ u v : UInt16, (u.toNat, v.toNat) ≠
      (x.toNat % canvasWidth.toNat, y.toNat % canvasHeight.toNat) → d'.pixel u v = d.pixel u v) ∧
    (¬ (x.toNat % canvasWidth.toNat < width.toNat ∧ y.toNat % canvasHeight.toNat < height.toNat) →
      d' = d)
  residues : ∀ (x y x' y' : UInt32) (color : Color),
    x.toNat % canvasWidth.toNat = x'.toNat % canvasWidth.toNat →
    y.toNat % canvasHeight.toNat = y'.toNat % canvasHeight.toNat →
      d.setPixel x y color = d.setPixel x' y' color
  beyond : ∀ x y, x < width → y < height → canvasWidth ≤ x ∨ canvasHeight ≤ y →
    d.pixel x y = .ok (some ⟨0, 0⟩)

theorem notMem_slot {x y u v : UInt16} {i : Nat} (hx : x < d.width) (hu : u < d.width)
    (hne : (u, v) ≠ (x, y)) (h : i ∈ d.slot x y) : i ∉ d.slot u v := by
  rintro ⟨hfirst', hlast'⟩
  obtain ⟨hfirst, hlast⟩ := h
  unfold offset at hfirst hlast hfirst' hlast'
  have hplace : y.toNat * d.width.toNat + x.toNat = v.toNat * d.width.toNat + u.toNat := by omega
  obtain ⟨hcolumn, hrow⟩ := (rowMajor_inj hx hu).1 hplace
  exact hne (Prod.ext (UInt16.toNat_inj.1 hcolumn.symm) (UInt16.toNat_inj.1 hrow.symm))

theorem WellFormed.mem_slot_iff (wf : d.WellFormed) {i : Nat} :
    i < d.resident.size ↔ ∃ x y, x < d.width ∧ y < d.height ∧ i ∈ d.slot x y := by
  constructor
  · intro h
    obtain ⟨u, v, ⟨hu, hv⟩, hplace⟩ := wf.exists_offset h
    have hx := toNat_ofNat_of_lt_word hu
    have hy := toNat_ofNat_of_lt_word hv
    refine ⟨.ofNat u, .ofNat v, ?_, ?_, ?_⟩
    · rwa [UInt16.lt_iff_toNat_lt, hx]
    · rwa [UInt16.lt_iff_toNat_lt, hy]
    · rw [slot, hx, hy, Set.mem_Ico]
      omega
  · rintro ⟨x, y, hx, hy, -, hlast⟩
    have hlt := wf.offset_lt (x := x.toNat) (y := y.toNat) ⟨hx, hy⟩
    omega

theorem WellFormed.pixel_iff (wf : d.WellFormed) {x y : UInt16} {p : Packed} :
    d.pixel x y = .ok (some p) ↔ (x < d.width ∧ y < d.height) ∧
      d.resident[d.offset x.toNat y.toNat]? = some p.high ∧
      d.resident[d.offset x.toNat y.toNat + 1]? = some p.low := by
  rw [wf.pixel_eq_some, eq_comm]
  exact and_congr_right fun hpanel => Packed.ofBytes_eq_iff (wf.offset_lt hpanel)

theorem WellFormed.pixel_draw (wf : d.WellFormed) (x y : UInt32) (color : Color) (u v : UInt16) :
    (d.draw x y color).pixel u v =
      if (u < d.width ∧ v < d.height) ∧ u.toNat = d.column x ∧ v.toNat = d.line y then
        .ok (some color.packed)
      else d.pixel u v := by
  obtain ⟨hwidth, hheight⟩ := draw_size d x y color
  rw [(wf.draw x y color).pixel_ok, wf.pixel_ok, hwidth, hheight]
  by_cases hpanel : u < d.width ∧ v < d.height
  · have hon : d.OnPanel u.toNat v.toNat := hpanel
    rw [if_pos hpanel, if_pos hpanel, wf.grid_draw x y color hon]
    simp only [hpanel, true_and]
    split_ifs <;> rfl
  · rw [if_neg hpanel, if_neg hpanel, if_neg fun h => hpanel h.1]

theorem draw_of_beside {x y : UInt32} (color : Color)
    (h : ¬ (d.column x < d.width.toNat ∧ d.line y < d.height.toNat)) : d.draw x y color = d :=
  if_neg h

theorem draw_of_residues {x y x' y' : UInt32} (color : Color) (hx : d.column x = d.column x')
    (hy : d.line y = d.line y') : d.draw x y color = d.draw x' y' color := by
  rw [draw, draw, hx, hy]

structure Unpainted (d : Display) (width height canvasWidth canvasHeight : UInt16) : Prop
    extends d.WellFormed where
  size : d.width = width ∧ d.height = height
  canvas : d.canvasWidth = canvasWidth ∧ d.canvasHeight = canvasHeight
  black : ∀ u v, d.OnPanel u v → canvasWidth.toNat ≤ u ∨ canvasHeight.toNat ≤ v →
    d.grid u v = ⟨0, 0⟩

theorem Unpainted.samePixels (h : d.Unpainted width height canvasWidth canvasHeight)
    (hsame : SamePixels d d') (wf' : d'.WellFormed) :
    d'.Unpainted width height canvasWidth canvasHeight := by
  refine ⟨wf', ⟨hsame.size.1.trans h.size.1, hsame.size.2.trans h.size.2⟩,
    ⟨hsame.canvas.1.trans h.canvas.1, hsame.canvas.2.trans h.canvas.2⟩, ?_⟩
  intro u v hpanel hbeyond
  rw [hsame.grid]
  exact h.black u v ((hsame.onPanel u v).1 hpanel) hbeyond

/-- Columns and rows of drawn pixels are remainders, and so within the canvas. -/
theorem Unpainted.draw (h : d.Unpainted width height canvasWidth canvasHeight) (x y : UInt32)
    (color : Color) : (d.draw x y color).Unpainted width height canvasWidth canvasHeight := by
  have htracks := h.tracks_draw x y color
  refine ⟨h.toWellFormed.draw x y color,
    ⟨htracks.size.1.trans h.size.1, htracks.size.2.trans h.size.2⟩,
    ⟨htracks.canvas.1.trans h.canvas.1, htracks.canvas.2.trans h.canvas.2⟩, ?_⟩
  intro u v hpanel hbeyond
  have hon := (htracks.onPanel u v).1 hpanel
  have hcolumn : d.column x < canvasWidth.toNat := by
    rw [← h.canvas.1]
    exact Nat.mod_lt _ h.canvasWidth_pos
  have hline : d.line y < canvasHeight.toNat := by
    rw [← h.canvas.2]
    exact Nat.mod_lt _ h.canvasHeight_pos
  rw [h.grid_draw x y color hon, if_neg (by omega)]
  exact h.black u v hon hbeyond

variable {σ : Type} [Screen σ] {screen screen' : σ}

theorem WellFormed.perform_cases (wf : d.WellFormed) {op : Op} {answer : Answer}
    (h : d.perform screen op = .ok (answer, d', screen')) :
    SamePixels d d' ∨ ∃ x y color, d' = d.draw x y color := by
  cases op with
  | setPixel x y color =>
    rw [perform, wf.setPixel_eq] at h
    cases h
    exact .inr ⟨x, y, color, rfl⟩
  | pixel x y =>
    rw [perform, wf.pixel_ok] at h
    cases h
    exact .inl (.refl d)
  | markAll =>
    cases h
    exact .inl (samePixels_markAll d)
  | flush =>
    rcases wf.flush_cases screen with ⟨-, hflush⟩ | ⟨-, hflush⟩
    · rw [perform, hflush] at h
      cases h
      exact .inl (.refl d)
    · rw [perform, hflush] at h
      cases h
      exact .inl (samePixels_flushed d)

theorem Unpainted.perform (hd : d.Unpainted width height canvasWidth canvasHeight) (screen : σ)
    (op : Op) : ∃ answer d' screen', d.perform screen op = .ok (answer, d', screen') ∧
      d'.Unpainted width height canvasWidth canvasHeight := by
  obtain ⟨answer, d', screen', h, wf', -⟩ := hd.perform_ok screen op
  refine ⟨answer, d', screen', h, ?_⟩
  rcases hd.perform_cases h with hsame | ⟨x, y, color, rfl⟩
  · exact hd.samePixels hsame wf'
  · exact hd.draw x y color

theorem unpainted_withCanvas (width height canvasWidth canvasHeight : UInt16) :
    (withCanvas width height canvasWidth canvasHeight).Unpainted width height (max canvasWidth 1)
      (max canvasHeight 1) :=
  ⟨withCanvas_wellFormed _ _ _ _, ⟨rfl, rfl⟩, ⟨rfl, rfl⟩, fun u v _ _ => grid_withCanvas _ _ _ _ u v⟩

theorem Unpainted.isGrid (h : d.Unpainted width height canvasWidth canvasHeight) :
    d.IsGrid width height canvasWidth canvasHeight := by
  obtain ⟨wf, ⟨rfl, rfl⟩, ⟨rfl, rfl⟩, black⟩ := h
  constructor
  case size => exact wf.resident_size
  case slots_disjoint => exact fun x y u v hx _ hu _ hne i hi => notMem_slot hx hu hne hi
  case slots_cover => exact fun i => wf.mem_slot_iff
  case pixel => exact fun x y p => wf.pixel_iff
  case setPixel =>
    intro x y color
    refine ⟨d.draw x y color, wf.setPixel_eq x y color, ?_, ?_, draw_of_beside color⟩
    · intro u v hu hv hcolumn hline
      rw [wf.pixel_draw, if_pos ⟨⟨hu, hv⟩, hcolumn, hline⟩]
    · intro u v hne
      rw [wf.pixel_draw, if_neg fun h => hne (Prod.ext h.2.1 h.2.2)]
  case residues =>
    intro x y x' y' color hx hy
    rw [wf.setPixel_eq, wf.setPixel_eq, draw_of_residues color hx hy]
  case beyond =>
    intro x y hx hy hbeyond
    have hon : d.OnPanel x.toNat y.toNat := ⟨hx, hy⟩
    rw [wf.pixel_eq hon, black _ _ hon hbeyond]

/-- After every run of operations on a new display its bytes are a grid of pixels. The canvas is at
least one pixel wide and high, and the pixels beyond it are still black. -/
theorem run_withCanvas_isGrid (width height canvasWidth canvasHeight : UInt16) (screen : σ)
    (ops : List Op) : ∃ answers d screen',
      run ops (withCanvas width height canvasWidth canvasHeight) screen =
        .ok (answers, d, screen') ∧
      d.IsGrid width height (max canvasWidth 1) (max canvasHeight 1) := by
  obtain ⟨answers, d, screen', hrun, hd⟩ := run_ok_of_perform_ok
    (P := fun e => e.Unpainted width height (max canvasWidth 1) (max canvasHeight 1))
    (fun _ hd => hd.perform)
    (unpainted_withCanvas width height canvasWidth canvasHeight) screen ops
  exact ⟨answers, d, screen', hrun, hd.isGrid⟩

end PictureFrame.Display
