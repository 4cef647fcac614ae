import Mathlib.Tactic.SplitIfs
import PictureFrame.Display
import PictureFrame.Proofs.Basic

set_option autoImplicit false

namespace PictureFrame

namespace DirtyBox

def Within (b : DirtyBox) (width height : Nat) : Prop :=
  b.minX.toNat ≤ b.maxX.toNat ∧ b.maxX.toNat < width ∧
    b.minY.toNat ≤ b.maxY.toNat ∧ b.maxY.toNat < height

theorem not_contains_empty (x y : Nat) : ¬ empty.Contains x y := by
  intro h
  obtain ⟨hmin, hmax, -, -⟩ := h
  change 65535 ≤ x at hmin
  change x ≤ 0 at hmax
  omega

theorem contains_insert (b : DirtyBox) (x y : UInt16) :
    (b.insert x y).Contains x.toNat y.toNat := by
  simp only [Contains, insert, toNat_min16, toNat_max16]
  omega

theorem Contains.insert {b : DirtyBox} {u v : Nat} (h : b.Contains u v) (x y : UInt16) :
    (b.insert x y).Contains u v := by
  simp only [Contains, DirtyBox.insert, toNat_min16, toNat_max16] at h ⊢
  omega

theorem within_insert {b : DirtyBox} {width height : Nat} {x y : UInt16}
    (hb : b = .empty ∨ b.Within width height) (hx : x.toNat < width) (hy : y.toNat < height) :
    (b.insert x y).Within width height := by
  have hx16 := x.toNat_lt
  have hy16 := y.toNat_lt
  rcases hb with rfl | hb
  · simp only [Within, insert, empty, toNat_min16, toNat_max16, UInt16.reduceToNat]
    omega
  · simp only [Within, insert, toNat_min16, toNat_max16] at hb ⊢
    omega

end DirtyBox

namespace Display

def OnPanel (d : Display) (x y : Nat) : Prop := x < d.width.toNat ∧ y < d.height.toNat

def grid (d : Display) (x y : Nat) : Packed := .ofBytes d.resident (d.offset x y)

structure WellFormed (d : Display) : Prop where
  resident_size : d.resident.size = d.width.toNat * d.height.toNat * 2
  scratch_size : d.scratch.size ≤ d.width.toNat * d.height.toNat * 2
  canvasWidth_pos : 0 < d.canvasWidth.toNat
  canvasHeight_pos : 0 < d.canvasHeight.toNat
  dirty_inside : d.dirty = .empty ∨ d.dirty.Within d.width.toNat d.height.toNat

variable {d : Display}

theorem WellFormed.offset_lt (wf : d.WellFormed) {x y : Nat} (h : d.OnPanel x y) :
    d.offset x y + 1 < d.resident.size := by
  have hlt := rowMajor_lt h.1 h.2
  rw [wf.resident_size]
  unfold offset
  omega

theorem WellFormed.packedAt_offset (wf : d.WellFormed) {x y : Nat} (h : d.OnPanel x y) :
    d.packedAt (d.offset x y) = .ok (d.grid x y) := by
  have hlt := wf.offset_lt h
  have hhigh : d.resident[d.offset x y]? = some d.resident[d.offset x y] :=
    Array.getElem?_eq_getElem (Nat.lt_of_succ_lt hlt)
  have hlow : d.resident[d.offset x y + 1]? = some d.resident[d.offset x y + 1] :=
    Array.getElem?_eq_getElem hlt
  simp only [packedAt, grid, Packed.ofBytes, hhigh, hlow, Option.getD_some]

theorem WellFormed.pixel_eq (wf : d.WellFormed) {x y : UInt16} (h : d.OnPanel x.toNat y.toNat) :
    d.pixel x y = .ok (some (d.grid x.toNat y.toNat)) := by
  have hlt : x < d.width ∧ y < d.height := h
  rw [pixel, if_pos hlt, wf.packedAt_offset h]
  rfl

theorem WellFormed.pixel_eq_some (wf : d.WellFormed) {x y : UInt16} {p : Packed} :
    d.pixel x y = .ok (some p) ↔ d.OnPanel x.toNat y.toNat ∧ p = d.grid x.toNat y.toNat := by
  by_cases h : d.OnPanel x.toNat y.toNat
  · rw [wf.pixel_eq h, Except.ok.injEq, Option.some.injEq, and_iff_right h, eq_comm]
  · have hoff : ¬ (x < d.width ∧ y < d.height) := h
    rw [pixel, if_neg hoff]
    exact iff_of_false nofun fun hon => h hon.1

def paint (d : Display) (x y : UInt16) (p : Packed) : Display :=
  if d.grid x.toNat y.toNat = p then d
  else { d with
    resident := (d.resident.setIfInBounds (d.offset x.toNat y.toNat) p.high).setIfInBounds
      (d.offset x.toNat y.toNat + 1) p.low
    dirty := d.dirty.insert x y }

theorem WellFormed.store_eq (wf : d.WellFormed) {x y : UInt16} (p : Packed)
    (h : d.OnPanel x.toNat y.toNat) : d.store x y p = .ok (d.paint x y p) := by
  rw [store, wf.packedAt_offset h]
  rfl

theorem paint_size (x y : UInt16) (p : Packed) :
    (d.paint x y p).width = d.width ∧ (d.paint x y p).height = d.height := by
  unfold paint
  split <;> exact ⟨rfl, rfl⟩

theorem paint_canvas (x y : UInt16) (p : Packed) :
    (d.paint x y p).canvasWidth = d.canvasWidth ∧
      (d.paint x y p).canvasHeight = d.canvasHeight := by
  unfold paint
  split <;> exact ⟨rfl, rfl⟩

theorem WellFormed.paint (wf : d.WellFormed) {x y : UInt16} (p : Packed)
    (h : d.OnPanel x.toNat y.toNat) : (d.paint x y p).WellFormed := by
  unfold Display.paint
  split
  · exact wf
  · refine ⟨?_, wf.scratch_size, wf.canvasWidth_pos, wf.canvasHeight_pos, .inr ?_⟩
    · simpa only [Array.size_setIfInBounds] using wf.resident_size
    · exact DirtyBox.within_insert wf.dirty_inside h.1 h.2

theorem WellFormed.grid_paint (wf : d.WellFormed) {x y : UInt16} {u v : Nat} (p : Packed)
    (h : d.OnPanel x.toNat y.toNat) (huv : d.OnPanel u v) :
    (d.paint x y p).grid u v = if u = x.toNat ∧ v = y.toNat then p else d.grid u v := by
  have hlt := wf.offset_lt h
  have hsame := rowMajor_inj (y := v) (v := y.toNat) huv.1 h.1
  unfold Display.paint
  split_ifs with hp huv' huv'
  · obtain ⟨rfl, rfl⟩ := huv'
    exact hp
  · rfl
  · obtain ⟨rfl, rfl⟩ := huv'
    simp only [grid, Packed.ofBytes, offset, Array.getElem?_setIfInBounds]
    simp only [offset] at hlt
    simp [hlt, Nat.lt_of_succ_lt hlt]
  · rw [← hsame] at huv'
    simp only [grid, Packed.ofBytes, offset, Array.getElem?_setIfInBounds]
    rw [if_neg (by omega), if_neg (by omega), if_neg (by omega), if_neg (by omega)]

def column (d : Display) (x : UInt32) : Nat := x.toNat % d.canvasWidth.toNat

def line (d : Display) (y : UInt32) : Nat := y.toNat % d.canvasHeight.toNat

/-- What `setPixel` makes of a well-formed display, on which it never stops the program. -/
def draw (d : Display) (x y : UInt32) (color : Color) : Display :=
  if d.column x < d.width.toNat ∧ d.line y < d.height.toNat then
    d.paint (.ofNat (d.column x)) (.ofNat (d.line y)) color.packed
  else d

theorem toNat_ofNat_of_lt_word {n : Nat} {w : UInt16} (h : n < w.toNat) :
    (UInt16.ofNat n).toNat = n :=
  UInt16.toNat_ofNat_of_lt' (Nat.lt_trans h w.toNat_lt)

theorem WellFormed.setPixel_eq (wf : d.WellFormed) (x y : UInt32) (color : Color) :
    d.setPixel x y color = .ok (d.draw x y color) := by
  have hcw : d.canvasWidth ≠ 0 := by
    intro h
    simpa [h] using wf.canvasWidth_pos
  have hch : d.canvasHeight ≠ 0 := by
    intro h
    simpa [h] using wf.canvasHeight_pos
  have hx : (x % d.canvasWidth.toUInt32).toUInt16 = .ofNat (d.column x) := by
    apply UInt16.toNat_inj.1
    simp [column]
  have hy : (y % d.canvasHeight.toUInt32).toUInt16 = .ofNat (d.line y) := by
    apply UInt16.toNat_inj.1
    simp [line]
  have hinside : (x % d.canvasWidth.toUInt32 < d.width.toUInt32 ∧
      y % d.canvasHeight.toUInt32 < d.height.toUInt32) ↔
        d.column x < d.width.toNat ∧ d.line y < d.height.toNat := by
    simp only [UInt32.lt_iff_toNat_lt, UInt32.toNat_mod, UInt16.toNat_toUInt32, column, line]
  rw [setPixel, if_neg (by simp [hcw, hch])]
  simp only [hinside, hx, hy, draw]
  split_ifs with h
  · apply wf.store_eq
    rwa [OnPanel, toNat_ofNat_of_lt_word h.1, toNat_ofNat_of_lt_word h.2]
  · rfl

theorem WellFormed.draw (wf : d.WellFormed) (x y : UInt32) (color : Color) :
    (d.draw x y color).WellFormed := by
  unfold Display.draw
  split_ifs with h
  · apply wf.paint
    rwa [OnPanel, toNat_ofNat_of_lt_word h.1, toNat_ofNat_of_lt_word h.2]
  · exact wf

/-- Drawing sets the pixel that the position falls on, if it is on the panel, and no other. -/
theorem WellFormed.grid_draw (wf : d.WellFormed) (x y : UInt32) (color : Color) {u v : Nat}
    (huv : d.OnPanel u v) : (d.draw x y color).grid u v =
      if u = d.column x ∧ v = d.line y then color.packed else d.grid u v := by
  unfold Display.draw
  split_ifs with h hsame hsame
  · have hx := toNat_ofNat_of_lt_word h.1
    have hy := toNat_ofNat_of_lt_word h.2
    rw [wf.grid_paint _ (by rwa [OnPanel, hx, hy]) huv, hx, hy, if_pos hsame]
  · have hx := toNat_ofNat_of_lt_word h.1
    have hy := toNat_ofNat_of_lt_word h.2
    rw [wf.grid_paint _ (by rwa [OnPanel, hx, hy]) huv, hx, hy, if_neg hsame]
  · obtain ⟨rfl, rfl⟩ := hsame
    exact absurd huv h
  · rfl

/-- The later display has the same sizes, a dirty box that has not shrunk, and all pixels that
differ from the earlier ones in it. -/
structure Tracks (d d' : Display) : Prop where
  size : d'.width = d.width ∧ d'.height = d.height
  canvas : d'.canvasWidth = d.canvasWidth ∧ d'.canvasHeight = d.canvasHeight
  dirty_of_dirty : ∀ u v, d.dirty.Contains u v → d'.dirty.Contains u v
  dirty_of_ne : ∀ u v, d.OnPanel u v → d'.grid u v ≠ d.grid u v → d'.dirty.Contains u v

theorem Tracks.refl (d : Display) : Tracks d d :=
  ⟨⟨rfl, rfl⟩, ⟨rfl, rfl⟩, fun _ _ h => h, fun _ _ _ h => absurd rfl h⟩

theorem Tracks.onPanel {d' : Display} (h : Tracks d d') (u v : Nat) :
    d'.OnPanel u v ↔ d.OnPanel u v := by
  rw [OnPanel, OnPanel, h.size.1, h.size.2]

theorem Tracks.column {d' : Display} (h : Tracks d d') (x : UInt32) : d'.column x = d.column x := by
  rw [Display.column, Display.column, h.canvas.1]

theorem Tracks.line {d' : Display} (h : Tracks d d') (y : UInt32) : d'.line y = d.line y := by
  rw [Display.line, Display.line, h.canvas.2]

theorem Tracks.trans {d' d'' : Display} (h : Tracks d d') (h' : Tracks d' d'') : Tracks d d'' := by
  refine ⟨⟨h'.size.1.trans h.size.1, h'.size.2.trans h.size.2⟩,
    ⟨h'.canvas.1.trans h.canvas.1, h'.canvas.2.trans h.canvas.2⟩, ?_, ?_⟩
  · intro u v huv
    exact h'.dirty_of_dirty u v (h.dirty_of_dirty u v huv)
  · intro u v huv hne
    by_cases hmid : d'.grid u v = d.grid u v
    · exact h'.dirty_of_ne u v ((h.onPanel u v).2 huv) (by rwa [hmid])
    · exact h'.dirty_of_dirty u v (h.dirty_of_ne u v huv hmid)

theorem WellFormed.tracks_paint (wf : d.WellFormed) {x y : UInt16} (p : Packed)
    (h : d.OnPanel x.toNat y.toNat) : Tracks d (d.paint x y p) := by
  refine ⟨paint_size x y p, paint_canvas x y p, ?_, ?_⟩
  · intro u v huv
    unfold Display.paint
    split_ifs
    · exact huv
    · exact huv.insert x y
  · intro u v huv hne
    rw [wf.grid_paint p h huv] at hne
    split_ifs at hne with hsame
    · obtain ⟨rfl, rfl⟩ := hsame
      rw [Display.paint, if_neg (fun heq => hne heq.symm)]
      exact d.dirty.contains_insert x y
    · exact absurd rfl hne

theorem WellFormed.tracks_draw (wf : d.WellFormed) (x y : UInt32) (color : Color) :
    Tracks d (d.draw x y color) := by
  unfold Display.draw
  split_ifs with h
  · apply wf.tracks_paint
    rwa [OnPanel, toNat_ofNat_of_lt_word h.1, toNat_ofNat_of_lt_word h.2]
  · exact .refl d

end Display
end PictureFrame
