import PictureFrame.Proofs.Display.Changes
import PictureFrame.Proofs.Display.Operations
import PictureFrame.Proofs.Display.Pixels

set_option autoImplicit false

namespace PictureFrame

/-- A pixel to be drawn at a position of the canvas. -/
structure Stroke where
  x : UInt32
  y : UInt32
  color : Color
  deriving DecidableEq, Repr

namespace Display

variable {d : Display} {strokes : List Stroke}

def stroke (d : Display) (s : Stroke) : Checked Display := d.setPixel s.x s.y s.color

def setPixels (d : Display) (strokes : List Stroke) : Checked Display := strokes.foldlM stroke d

/-- The pixels whose stored value some stroke changed when its turn came. -/
def changed (d : Display) (strokes : List Stroke) : Set (UInt16 × UInt16) :=
  {q | ∃ before s after earlier later, strokes = before ++ s :: after ∧
    d.setPixels before = .ok earlier ∧ earlier.stroke s = .ok later ∧
    later.resident ≠ earlier.resident ∧ q.1.toNat = d.column s.x ∧ q.2.toNat = d.line s.y}

def drawAll (d : Display) (strokes : List Stroke) : Display :=
  strokes.foldl (fun d s => d.draw s.x s.y s.color) d

theorem WellFormed.setPixels_eq (wf : d.WellFormed) (strokes : List Stroke) :
    d.setPixels strokes = .ok (d.drawAll strokes) := by
  refine (Checked.foldlM_eq_ok WellFormed strokes d wf ?_).1
  intro d wf s _
  exact ⟨wf.setPixel_eq s.x s.y s.color, wf.draw s.x s.y s.color⟩

theorem WellFormed.drawAll (wf : d.WellFormed) (strokes : List Stroke) :
    (d.drawAll strokes).WellFormed := by
  induction strokes generalizing d with
  | nil => exact wf
  | cons s strokes ih => exact ih (wf.draw s.x s.y s.color)

theorem WellFormed.tracks_drawAll (wf : d.WellFormed) (strokes : List Stroke) :
    Tracks d (d.drawAll strokes) := by
  induction strokes generalizing d with
  | nil => exact .refl d
  | cons s strokes ih => exact (wf.tracks_draw s.x s.y s.color).trans (ih (wf.draw _ _ _))

theorem WellFormed.resident_draw_eq_iff (wf : d.WellFormed) {x y : UInt32} {color : Color} :
    (d.draw x y color).resident = d.resident ↔ d.Holds x y color := by
  constructor
  · intro hsame hpanel
    have hdrawn := wf.grid_draw x y color hpanel
    rw [if_pos ⟨rfl, rfl⟩] at hdrawn
    rw [← hdrawn, grid, grid, offset, offset, hsame, (draw_size d x y color).1]
  · intro hholds
    rw [hholds.draw_eq_self]

theorem mem_altered_iff {x y : UInt32} {color : Color} {q : UInt16 × UInt16} :
    q ∈ d.altered x y color.packed ↔
      ¬ d.Holds x y color ∧ q.1.toNat = d.column x ∧ q.2.toNat = d.line y := by
  rw [Holds, Classical.not_imp]
  constructor
  · rintro ⟨hcolumn, hline, hchanged⟩
    rw [hcolumn, hline] at hchanged
    exact ⟨hchanged, hcolumn, hline⟩
  · rintro ⟨hchanged, hcolumn, hline⟩
    rw [← hcolumn, ← hline] at hchanged
    exact ⟨hcolumn, hline, hchanged⟩

theorem WellFormed.mem_changed_iff (wf : d.WellFormed) {q : UInt16 × UInt16} :
    q ∈ d.changed strokes ↔ ∃ before s after, strokes = before ++ s :: after ∧
      q ∈ (d.drawAll before).altered s.x s.y s.color.packed := by
  constructor
  · rintro ⟨before, s, after, earlier, later, hsplit, hearlier, hlater, hne, hcolumn, hline⟩
    cases hearlier.symm.trans (wf.setPixels_eq before)
    cases hlater.symm.trans ((wf.drawAll before).setPixel_eq s.x s.y s.color)
    refine ⟨before, s, after, hsplit, mem_altered_iff.2 ⟨?_, ?_, ?_⟩⟩
    · rwa [ne_eq, (wf.drawAll before).resident_draw_eq_iff] at hne
    · rw [(wf.tracks_drawAll before).column, hcolumn]
    · rw [(wf.tracks_drawAll before).line, hline]
  · rintro ⟨before, s, after, hsplit, hq⟩
    obtain ⟨hne, hcolumn, hline⟩ := mem_altered_iff.1 hq
    rw [(wf.tracks_drawAll before).column] at hcolumn
    rw [(wf.tracks_drawAll before).line] at hline
    rw [← (wf.drawAll before).resident_draw_eq_iff] at hne
    exact ⟨before, s, after, _, _, hsplit, wf.setPixels_eq before,
      (wf.drawAll before).setPixel_eq s.x s.y s.color, hne, hcolumn, hline⟩

theorem WellFormed.changed_cons (wf : d.WellFormed) (s : Stroke) (strokes : List Stroke) :
    d.changed (s :: strokes) =
      d.altered s.x s.y s.color.packed ∪ (d.draw s.x s.y s.color).changed strokes := by
  ext q
  rw [Set.mem_union, wf.mem_changed_iff, (wf.draw s.x s.y s.color).mem_changed_iff]
  constructor
  · rintro ⟨before, t, after, hsplit, hq⟩
    cases before with
    | nil =>
      cases hsplit
      exact .inl hq
    | cons b before =>
      cases hsplit
      exact .inr ⟨before, t, after, rfl, hq⟩
  · rintro (hq | ⟨before, t, after, rfl, hq⟩)
    · exact ⟨[], s, strokes, rfl, hq⟩
    · exact ⟨s :: before, t, after, rfl, hq⟩

theorem WellFormed.changed_nil (wf : d.WellFormed) : d.changed [] = ∅ := by
  refine Set.eq_empty_iff_forall_notMem.2 fun q hq => ?_
  obtain ⟨before, s, after, hsplit, -⟩ := wf.mem_changed_iff.1 hq
  exact List.append_ne_nil_of_right_ne_nil before (List.cons_ne_nil s after) hsplit.symm

/-- Each stroke adds to the box what it changes, so the box of the whole is the box of all changes. -/
theorem WellFormed.bounds_drawAll (wf : d.WellFormed) {points : Set (UInt16 × UInt16)}
    (h : d.dirty.Bounds points) :
    (d.drawAll strokes).dirty.Bounds (d.changed strokes ∪ points) := by
  induction strokes generalizing d points with
  | nil => rwa [wf.changed_nil, Set.empty_union]
  | cons s strokes ih =>
    have hdrawn := ih (wf.draw s.x s.y s.color) (bounds_draw h s.x s.y s.color)
    rwa [wf.changed_cons, Set.union_assoc, Set.union_left_comm]

theorem WellFormed.holds_of_pixel (wf : d.WellFormed) {x y : UInt32} {color : Color}
    (h : d.pixel (.ofNat (d.column x)) (.ofNat (d.line y)) = .ok none ∨
      d.pixel (.ofNat (d.column x)) (.ofNat (d.line y)) = .ok (some color.packed)) :
    d.Holds x y color := by
  intro hpanel
  have hx := toNat_ofNat_of_lt_word hpanel.1
  have hy := toNat_ofNat_of_lt_word hpanel.2
  have hpixel := wf.pixel_eq (x := .ofNat (d.column x)) (y := .ofNat (d.line y))
    (by rwa [hx, hy])
  rw [hx, hy] at hpixel
  rw [hpixel] at h
  rcases h with h | h
  · cases h
  · exact Option.some.inj (Except.ok.inj h)

/-- After any strokes on a clean display the dirty box is empty exactly if none of them changed a
stored value when its turn came, and otherwise the smallest box around the pixels changed. A stroke
beside the panel, or of the colour that is stored, leaves the display as it is. -/
theorem dirty_of_strokes (hd : d.Reachable) (hclean : d.dirty = .empty) (strokes : List Stroke) :
    ∃ drawn, d.setPixels strokes = .ok drawn ∧
      (drawn.dirty = .empty ↔ d.changed strokes = ∅) ∧
      (d.changed strokes ≠ ∅ → drawn.dirty.Tight (d.changed strokes)) ∧
      ∀ before s after, strokes = before ++ s :: after → ∃ earlier later,
        d.setPixels before = .ok earlier ∧ earlier.stroke s = .ok later ∧
        (earlier.pixel (.ofNat (d.column s.x)) (.ofNat (d.line s.y)) = .ok none ∨
          earlier.pixel (.ofNat (d.column s.x)) (.ofNat (d.line s.y)) = .ok (some s.color.packed) →
            later = earlier) := by
  have wf := hd.wellFormed
  have hbounds : (d.drawAll strokes).dirty.Bounds (d.changed strokes ∪ ∅) :=
    wf.bounds_drawAll (.empty hclean rfl)
  rw [Set.union_empty] at hbounds
  refine ⟨d.drawAll strokes, wf.setPixels_eq strokes, hbounds.eq_empty_iff, ?_, ?_⟩
  · intro hsome
    exact hbounds.tight_of_ne (hbounds.eq_empty_iff.not.2 hsome)
  · rintro before s after -
    have hbefore := wf.drawAll before
    refine ⟨d.drawAll before, _, wf.setPixels_eq before, hbefore.setPixel_eq s.x s.y s.color, ?_⟩
    rw [← (wf.tracks_drawAll before).column, ← (wf.tracks_drawAll before).line]
    intro hidle
    exact (hbefore.holds_of_pixel hidle).draw_eq_self

theorem dirty_of_strokes_aliased : ∃ drawn,
    (withCanvas 3 2 2 2).setPixels
        [⟨3, 0, .solid 255 0 0⟩, ⟨1, 2, .solid 255 0 0⟩, ⟨0, 1, .solid 0 0 0⟩] = .ok drawn ∧
      drawn.dirty = ⟨1, 1, 0, 0⟩ ∧ drawn.dirty.Tight ((withCanvas 3 2 2 2).changed
        [⟨3, 0, .solid 255 0 0⟩, ⟨1, 2, .solid 255 0 0⟩, ⟨0, 1, .solid 0 0 0⟩]) := by
  have hrun : ∃ drawn, (withCanvas 3 2 2 2).setPixels
      [⟨3, 0, .solid 255 0 0⟩, ⟨1, 2, .solid 255 0 0⟩, ⟨0, 1, .solid 0 0 0⟩] = .ok drawn ∧
      drawn.dirty = ⟨1, 1, 0, 0⟩ := ⟨_, rfl, rfl⟩
  obtain ⟨drawn, hdrawn, hbox⟩ := hrun
  obtain ⟨_, heq, hempty, htight, -⟩ := dirty_of_strokes (.withCanvas 3 2 2 2) rfl
    [⟨3, 0, .solid 255 0 0⟩, ⟨1, 2, .solid 255 0 0⟩, ⟨0, 1, .solid 0 0 0⟩]
  cases hdrawn.symm.trans heq
  refine ⟨drawn, hdrawn, hbox, htight (hempty.not.1 ?_)⟩
  rw [hbox]
  decide

end Display
end PictureFrame
