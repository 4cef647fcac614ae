import PictureFrame.Proofs.Display.Flush

set_option autoImplicit false

namespace PictureFrame.Display

variable {d d' d'' : Display}

structure SamePixels (d d' : Display) : Prop where
  size : d'.width = d.width ∧ d'.height = d.height
  canvas : d'.canvasWidth = d.canvasWidth ∧ d'.canvasHeight = d.canvasHeight
  resident : d'.resident = d.resident

theorem SamePixels.refl (d : Display) : SamePixels d d := ⟨⟨rfl, rfl⟩, ⟨rfl, rfl⟩, rfl⟩

theorem SamePixels.trans (h : SamePixels d d') (h' : SamePixels d' d'') : SamePixels d d'' :=
  ⟨⟨h'.size.1.trans h.size.1, h'.size.2.trans h.size.2⟩,
    ⟨h'.canvas.1.trans h.canvas.1, h'.canvas.2.trans h.canvas.2⟩, h'.resident.trans h.resident⟩

theorem samePixels_flushed (d : Display) : SamePixels d d.flushed := ⟨⟨rfl, rfl⟩, ⟨rfl, rfl⟩, rfl⟩

theorem samePixels_markAll (d : Display) : SamePixels d d.markAll := by
  unfold markAll
  split_ifs
  · exact .refl d
  · exact ⟨⟨rfl, rfl⟩, ⟨rfl, rfl⟩, rfl⟩

theorem SamePixels.onPanel (h : SamePixels d d') (u v : Nat) : d'.OnPanel u v ↔ d.OnPanel u v := by
  rw [OnPanel, OnPanel, h.size.1, h.size.2]

theorem SamePixels.grid (h : SamePixels d d') (u v : Nat) : d'.grid u v = d.grid u v := by
  rw [Display.grid, Display.grid, offset, offset, h.size.1, h.resident]

theorem SamePixels.column (h : SamePixels d d') (x : UInt32) : d'.column x = d.column x := by
  rw [Display.column, Display.column, h.canvas.1]

theorem SamePixels.line (h : SamePixels d d') (y : UInt32) : d'.line y = d.line y := by
  rw [Display.line, Display.line, h.canvas.2]

theorem SamePixels.paint (h : SamePixels d d') (x y : UInt16) (p : Packed) :
    SamePixels (d.paint x y p) (d'.paint x y p) := by
  unfold Display.paint
  rw [h.grid]
  split_ifs
  · exact h
  · refine ⟨h.size, h.canvas, ?_⟩
    simp only [offset, h.size.1, h.resident]

theorem SamePixels.draw (h : SamePixels d d') (x y : UInt32) (color : Color) :
    SamePixels (d.draw x y color) (d'.draw x y color) := by
  unfold Display.draw
  rw [h.column, h.line, h.size.1, h.size.2]
  split_ifs
  · exact h.paint _ _ _
  · exact h

def Holds (d : Display) (x y : UInt32) (color : Color) : Prop :=
  d.OnPanel (d.column x) (d.line y) → d.grid (d.column x) (d.line y) = color.packed

theorem Holds.draw_eq_self {x y : UInt32} {color : Color} (h : d.Holds x y color) :
    d.draw x y color = d := by
  unfold Display.draw
  split_ifs with hpanel
  · rw [paint, toNat_ofNat_of_lt_word hpanel.1, toNat_ofNat_of_lt_word hpanel.2,
      if_pos (h hpanel)]
  · rfl

/-- When drawing leaves nothing dirty, the colour was there already. -/
theorem WellFormed.holds_of_clean (wf : d.WellFormed) {x y : UInt32} {color : Color}
    (h : ∀ u v, ¬ (d.draw x y color).dirty.Contains u v) : d.Holds x y color := by
  intro hpanel
  refine Decidable.byContradiction fun hne => ?_
  have hchanged : (d.draw x y color).grid (d.column x) (d.line y) ≠
      d.grid (d.column x) (d.line y) := by
    rw [wf.grid_draw x y color hpanel, if_pos ⟨rfl, rfl⟩]
    exact fun heq => hne heq.symm
  exact h _ _ ((wf.tracks_draw x y color).dirty_of_ne _ _ hpanel hchanged)

theorem WellFormed.exists_offset (wf : d.WellFormed) {i : Nat} (h : i < d.resident.size) :
    ∃ u v, d.OnPanel u v ∧ (i = d.offset u v ∨ i = d.offset u v + 1) := by
  have hplace : i / 2 < d.height.toNat * d.width.toNat := by
    rw [wf.resident_size] at h
    rw [Nat.mul_comm]
    omega
  have hwidth : 0 < d.width.toNat := Nat.pos_of_mul_pos_left (Nat.zero_lt_of_lt hplace)
  refine ⟨i / 2 % d.width.toNat, i / 2 / d.width.toNat,
    ⟨Nat.mod_lt _ hwidth, (Nat.div_lt_iff_lt_mul hwidth).2 hplace⟩, ?_⟩
  rw [offset, Nat.mul_comm (i / 2 / _), Nat.div_add_mod]
  omega

/-- Two displays of one size with the same pixels on the panel store the same bytes. -/
theorem WellFormed.resident_ext (wf : d.WellFormed) (wf' : d'.WellFormed)
    (hsize : d'.width = d.width ∧ d'.height = d.height)
    (hgrid : ∀ u v, d.OnPanel u v → d'.grid u v = d.grid u v) : d'.resident = d.resident := by
  have hlength : d'.resident.size = d.resident.size := by
    rw [wf'.resident_size, wf.resident_size, hsize.1, hsize.2]
  refine Array.ext hlength ?_
  intro i hi' hi
  obtain ⟨u, v, hpanel, hplace⟩ := wf.exists_offset hi
  have hoffset : d'.offset u v = d.offset u v := by rw [offset, offset, hsize.1]
  have hpixel := hgrid u v hpanel
  rw [grid, grid, hoffset, Packed.ofBytes, Packed.ofBytes, Packed.mk.injEq] at hpixel
  rcases hplace with rfl | rfl
  · have hhigh := hpixel.1
    rwa [Array.getElem?_eq_getElem hi', Array.getElem?_eq_getElem hi] at hhigh
  · have hlow := hpixel.2
    rwa [Array.getElem?_eq_getElem hi', Array.getElem?_eq_getElem hi] at hlow

end PictureFrame.Display
