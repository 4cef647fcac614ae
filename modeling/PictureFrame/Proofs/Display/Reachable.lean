import PictureFrame.Proofs.Display.Flush

set_option autoImplicit false

namespace PictureFrame

theorem DirtyBox.Within.rect_of_corners {b : DirtyBox} {width height : UInt16}
    (h : b.Within width.toNat height.toNat) (first : b.Contains 0 0)
    (last : b.Contains (width.toNat - 1) (height.toNat - 1)) : b.rect = ⟨0, 0, width, height⟩ := by
  obtain ⟨hnextX, hnextY⟩ := h.toNat_next
  obtain ⟨-, hmaxX, -, hmaxY⟩ := h
  obtain ⟨hminX, -, hminY, -⟩ := first
  obtain ⟨-, hlastX, -, hlastY⟩ := last
  have hleft : b.minX = 0 := UInt16.toNat_inj.1 (by rw [UInt16.toNat_zero]; omega)
  have htop : b.minY = 0 := UInt16.toNat_inj.1 (by rw [UInt16.toNat_zero]; omega)
  have hright : b.maxX + 1 = width := UInt16.toNat_inj.1 (by omega)
  have hbottom : b.maxY + 1 = height := UInt16.toNat_inj.1 (by omega)
  rw [rect, hleft, htop, hright, hbottom]

namespace Display

/-- What can be made of a new display by drawing, marking and flushing. -/
inductive Reachable : Display → Prop
  | withCanvas (width height canvasWidth canvasHeight : UInt16) :
      Reachable (withCanvas width height canvasWidth canvasHeight)
  | setPixel {d d' : Display} (x y : UInt32) (color : Color) (before : Reachable d)
      (drawn : d.setPixel x y color = .ok d') : Reachable d'
  | markAll {d : Display} (before : Reachable d) : Reachable d.markAll
  | flush {σ : Type} [Screen σ] {d d' : Display} {screen screen' : σ} {outcome : Flush}
      (before : Reachable d) (sent : d.flush screen = .ok (outcome, d', screen')) : Reachable d'

variable {d : Display}

theorem canvas_pos (side : UInt16) : 0 < (max side 1).toNat := by
  rw [toNat_max16, UInt16.toNat_one]
  omega

theorem withCanvas_wellFormed (width height canvasWidth canvasHeight : UInt16) :
    (withCanvas width height canvasWidth canvasHeight).WellFormed := by
  refine ⟨Array.size_replicate, ?_, canvas_pos canvasWidth, canvas_pos canvasHeight, .inl rfl⟩
  exact Nat.zero_le _

theorem grid_withCanvas (width height canvasWidth canvasHeight : UInt16) (x y : Nat) :
    (withCanvas width height canvasWidth canvasHeight).grid x y = ⟨0, 0⟩ := by
  simp only [grid, Packed.ofBytes, withCanvas, Array.getElem?_replicate]
  split_ifs <;> rfl

theorem toNat_pred_of_ne_zero {n : UInt16} (h : n ≠ 0) : (n - 1).toNat = n.toNat - 1 := by
  have hpos : n.toNat ≠ 0 := fun hz => h (UInt16.toNat_inj.1 hz)
  have hle : 1 ≤ n := UInt16.le_iff_toNat_le.2 (by rw [UInt16.toNat_one]; omega)
  rw [UInt16.toNat_sub_of_le _ _ hle, UInt16.toNat_one]

theorem markAll_dirty (hw : d.width ≠ 0) (hh : d.height ≠ 0) :
    d.markAll = { d with dirty := ⟨0, d.width - 1, 0, d.height - 1⟩ } := by
  rw [markAll, if_neg (by simp [hw, hh])]

theorem WellFormed.markAll (wf : d.WellFormed) : d.markAll.WellFormed := by
  by_cases h : d.width = 0 ∨ d.height = 0
  · rwa [Display.markAll, if_pos h]
  · obtain ⟨hw, hh⟩ := not_or.1 h
    have hwidth : d.width.toNat ≠ 0 := fun hz => hw (UInt16.toNat_inj.1 hz)
    have hheight : d.height.toNat ≠ 0 := fun hz => hh (UInt16.toNat_inj.1 hz)
    rw [markAll_dirty hw hh]
    refine ⟨wf.resident_size, wf.scratch_size, wf.canvasWidth_pos, wf.canvasHeight_pos, .inr ?_⟩
    simp only [DirtyBox.Within, toNat_pred_of_ne_zero hw, toNat_pred_of_ne_zero hh,
      UInt16.toNat_zero]
    omega

theorem markAll_contains {x y : Nat} (h : d.OnPanel x y) : d.markAll.dirty.Contains x y := by
  obtain ⟨hx, hy⟩ := h
  have hw : d.width ≠ 0 := by
    intro hz
    rw [hz, UInt16.toNat_zero] at hx
    omega
  have hh : d.height ≠ 0 := by
    intro hz
    rw [hz, UInt16.toNat_zero] at hy
    omega
  rw [markAll_dirty hw hh]
  simp only [DirtyBox.Contains, toNat_pred_of_ne_zero hw, toNat_pred_of_ne_zero hh,
    UInt16.toNat_zero]
  omega

theorem markAll_size (d : Display) :
    d.markAll.width = d.width ∧ d.markAll.height = d.height := by
  unfold markAll
  split_ifs <;> exact ⟨rfl, rfl⟩

/-- Whatever was drawn on a display since all of it was marked, all of it is dirty. -/
theorem Tracks.whole {d d' : Display} (h : Tracks d.markAll d') (wf : d'.WellFormed)
    (hwidth : 1 ≤ d.width) (hheight : 1 ≤ d.height) :
    d'.dirty.Within d'.width.toNat d'.height.toNat ∧
      d'.dirty.rect = ⟨0, 0, d.width, d.height⟩ := by
  have hw : 1 ≤ d.width.toNat := UInt16.le_iff_toNat_le.1 hwidth
  have hh : 1 ≤ d.height.toNat := UInt16.le_iff_toNat_le.1 hheight
  have hcontains : ∀ x y, d.OnPanel x y → d'.dirty.Contains x y :=
    fun x y hxy => h.dirty_of_dirty x y (markAll_contains hxy)
  have hfirst := hcontains 0 0 ⟨hw, hh⟩
  have hlast := hcontains (d.width.toNat - 1) (d.height.toNat - 1) ⟨by omega, by omega⟩
  have hsize : d'.width = d.width ∧ d'.height = d.height :=
    ⟨h.size.1.trans d.markAll_size.1, h.size.2.trans d.markAll_size.2⟩
  rcases wf.dirty_inside with hempty | hwithin
  · rw [hempty] at hfirst
    exact absurd hfirst (DirtyBox.not_contains_empty 0 0)
  · refine ⟨hwithin, ?_⟩
    rw [hsize.1, hsize.2] at hwithin
    exact hwithin.rect_of_corners hfirst hlast

theorem markAll_canvas (d : Display) :
    d.markAll.canvasWidth = d.canvasWidth ∧ d.markAll.canvasHeight = d.canvasHeight := by
  unfold markAll
  split_ifs <;> exact ⟨rfl, rfl⟩

theorem grid_markAll (x y : Nat) : d.markAll.grid x y = d.grid x y := by
  unfold markAll
  split_ifs <;> rfl

theorem WellFormed.flush_cases {σ : Type} [Screen σ] (wf : d.WellFormed) (screen : σ) :
    d.dirty = .empty ∧ d.flush screen = .ok (.clean, d, screen) ∨
      d.dirty.Within d.width.toNat d.height.toNat ∧
        d.flush screen = .ok (.ofAnswer d.dirty.rect
            (Screen.blit (d.picture d.dirty.rect) d.dirty.rect screen).1,
          d.flushed, (Screen.blit (d.picture d.dirty.rect) d.dirty.rect screen).2) := by
  rcases wf.dirty_inside with h | h
  · exact .inl ⟨h, flush_of_empty h screen⟩
  · exact .inr ⟨h, wf.flush_of_within h screen⟩

theorem Reachable.wellFormed (h : Reachable d) : d.WellFormed := by
  induction h with
  | withCanvas width height canvasWidth canvasHeight => exact withCanvas_wellFormed _ _ _ _
  | setPixel x y color before drawn wf =>
    rw [wf.setPixel_eq] at drawn
    cases drawn
    exact wf.draw x y color
  | markAll before wf => exact wf.markAll
  | @flush _ _ _ _ screen _ _ before sent wf =>
    rcases wf.flush_cases screen with ⟨-, heq⟩ | ⟨hwithin, heq⟩
    · rw [heq] at sent
      cases sent
      exact wf
    · rw [heq] at sent
      cases sent
      exact wf.flushed hwithin

end Display
end PictureFrame
