import PictureFrame.Proofs.Display.Strokes

set_option autoImplicit false

/-!
# Strokes in another order

Strokes on different places of the canvas commute: they change different pixels, neither sees what
the other one stored, and the dirty box grows by both in either order. So strokes may be put into
any order that keeps those on one place in turn, and the display they leave is the same.
-/
namespace PictureFrame

theorem DirtyBox.insert_comm (b : DirtyBox) (x y u v : UInt16) :
    (b.insert x y).insert u v = (b.insert u v).insert x y := by
  have hmin : ∀ k m n : UInt16, min (min k m) n = min (min k n) m := by
    intro k m n
    apply UInt16.toNat_inj.1
    simp only [toNat_min16, Nat.min_right_comm]
  have hmax : ∀ k m n : UInt16, max (max k m) n = max (max k n) m := by
    intro k m n
    apply UInt16.toNat_inj.1
    simp only [toNat_max16, Nat.max_right_comm]
  simp only [insert, hmin _ x u, hmax _ x u, hmin _ y v, hmax _ y v]

namespace Display

variable {d d' : Display} {s t : Stroke}

def place (d : Display) (s : Stroke) : Nat × Nat := (d.column s.x, d.line s.y)

theorem SamePixels.eq (h : SamePixels d d') (hscratch : d'.scratch = d.scratch)
    (hdirty : d'.dirty = d.dirty) : d' = d := by
  obtain ⟨⟨hwidth, hheight⟩, ⟨hcanvasWidth, hcanvasHeight⟩, hresident⟩ := h
  cases d
  cases d'
  simp only [mk.injEq]
  exact ⟨hwidth, hheight, hcanvasWidth, hcanvasHeight, hresident, hscratch, hdirty⟩

theorem draw_scratch (x y : UInt32) (color : Color) : (d.draw x y color).scratch = d.scratch := by
  unfold draw paint
  split_ifs <;> rfl

theorem dirty_draw {x y : UInt32} {color : Color} (h : ¬ d.Holds x y color) :
    (d.draw x y color).dirty = d.dirty.insert (.ofNat (d.column x)) (.ofNat (d.line y)) := by
  obtain ⟨hpanel, hne⟩ := Classical.not_imp.1 h
  have hdraw : d.draw x y color = d.paint (.ofNat (d.column x)) (.ofNat (d.line y)) color.packed :=
    if_pos hpanel
  rw [hdraw, paint, toNat_ofNat_of_lt_word hpanel.1, toNat_ofNat_of_lt_word hpanel.2, if_neg hne]

theorem WellFormed.holds_draw_iff (wf : d.WellFormed) (h : d.place s ≠ d.place t) :
    (d.draw t.x t.y t.color).Holds s.x s.y s.color ↔ d.Holds s.x s.y s.color := by
  have ht := wf.tracks_draw t.x t.y t.color
  rw [Holds, Holds, ht.onPanel, ht.column, ht.line]
  refine forall_congr' fun hpanel => ?_
  rw [wf.grid_draw _ _ _ hpanel, if_neg fun hsame => h (Prod.ext hsame.1 hsame.2)]

theorem WellFormed.samePixels_draw_comm (wf : d.WellFormed) (h : d.place s ≠ d.place t) :
    SamePixels ((d.draw t.x t.y t.color).draw s.x s.y s.color)
      ((d.draw s.x s.y s.color).draw t.x t.y t.color) := by
  have hs := wf.tracks_draw s.x s.y s.color
  have ht := wf.tracks_draw t.x t.y t.color
  have hwfs := wf.draw s.x s.y s.color
  have hwft := wf.draw t.x t.y t.color
  have hst := hs.trans (hwfs.tracks_draw t.x t.y t.color)
  have hts := ht.trans (hwft.tracks_draw s.x s.y s.color)
  have hsize := And.intro (hst.size.1.trans hts.size.1.symm) (hst.size.2.trans hts.size.2.symm)
  refine ⟨hsize, ⟨hst.canvas.1.trans hts.canvas.1.symm, hst.canvas.2.trans hts.canvas.2.symm⟩, ?_⟩
  refine (hwft.draw _ _ _).resident_ext (hwfs.draw _ _ _) hsize fun u v huv => ?_
  have hon := (hts.onPanel u v).1 huv
  rw [hwfs.grid_draw _ _ _ ((hs.onPanel u v).2 hon), wf.grid_draw _ _ _ hon,
    hwft.grid_draw _ _ _ ((ht.onPanel u v).2 hon), wf.grid_draw _ _ _ hon,
    hs.column, hs.line, ht.column, ht.line]
  by_cases hons : u = d.column s.x ∧ v = d.line s.y
  · have hoff : ¬ (u = d.column t.x ∧ v = d.line t.y) := fun hont =>
      h (Prod.ext (hons.1.symm.trans hont.1) (hons.2.symm.trans hont.2))
    rw [if_pos hons, if_pos hons, if_neg hoff]
  · rw [if_neg hons, if_neg hons]

theorem WellFormed.draw_comm (wf : d.WellFormed) (h : d.place s ≠ d.place t) :
    (d.draw s.x s.y s.color).draw t.x t.y t.color =
      (d.draw t.x t.y t.color).draw s.x s.y s.color := by
  have hs := wf.holds_draw_iff h
  have ht := wf.holds_draw_iff h.symm
  by_cases hsholds : d.Holds s.x s.y s.color
  · rw [hsholds.draw_eq_self, (hs.2 hsholds).draw_eq_self]
  by_cases htholds : d.Holds t.x t.y t.color
  · rw [htholds.draw_eq_self, (ht.2 htholds).draw_eq_self]
  -- Both change their pixels, so the box grows twice.
  have hst := wf.tracks_draw s.x s.y s.color
  have htt := wf.tracks_draw t.x t.y t.color
  refine (wf.samePixels_draw_comm h).eq ?_ ?_
  · simp only [draw_scratch]
  · rw [dirty_draw (ht.not.2 htholds), dirty_draw hsholds, dirty_draw (hs.not.2 hsholds),
      dirty_draw htholds, hst.column, hst.line, htt.column, htt.line, DirtyBox.insert_comm]

variable {strokes strokes' before after : List Stroke}

/-- The same strokes, in an order that keeps those on one place in turn. -/
def Reordered (d : Display) (strokes strokes' : List Stroke) : Prop :=
  strokes.Perm strokes' ∧
    ∀ spot, strokes.filter (d.place · = spot) = strokes'.filter (d.place · = spot)

theorem Tracks.place (h : Tracks d d') (s : Stroke) : d'.place s = d.place s := by
  rw [Display.place, Display.place, h.column, h.line]

theorem WellFormed.drawAll_middle (wf : d.WellFormed)
    (h : ∀ b ∈ before, d.place b ≠ d.place s) :
    d.drawAll (before ++ s :: after) = d.drawAll (s :: (before ++ after)) := by
  induction before generalizing d with
  | nil => rfl
  | cons b before ih =>
    have hb := wf.tracks_draw b.x b.y b.color
    have hlater := ih (wf.draw b.x b.y b.color) fun c hc => by
      rw [hb.place, hb.place]
      exact h c (List.mem_cons_of_mem b hc)
    calc d.drawAll (b :: before ++ s :: after)
        = (d.draw b.x b.y b.color).drawAll (s :: (before ++ after)) := hlater
      _ = ((d.draw b.x b.y b.color).draw s.x s.y s.color).drawAll (before ++ after) := rfl
      _ = ((d.draw s.x s.y s.color).draw b.x b.y b.color).drawAll (before ++ after) := by
        rw [wf.draw_comm (h b List.mem_cons_self)]

/-- The first stroke is also the first one on its place in every other order. -/
theorem Reordered.split (h : Reordered d (s :: strokes) strokes') : ∃ before after,
    strokes' = before ++ s :: after ∧ (∀ b ∈ before, d.place b ≠ d.place s) ∧
      Reordered d strokes (before ++ after) := by
  obtain ⟨hperm, hturn⟩ := h
  have hfirst := hturn (d.place s)
  rw [List.filter_cons_of_pos (by simp)] at hfirst
  obtain ⟨before, after, rfl, hbefore, -, -⟩ := List.filter_eq_cons_iff.1 hfirst.symm
  have hother : ∀ b ∈ before, d.place b ≠ d.place s := by
    intro b hb
    simpa using hbefore b hb
  refine ⟨before, after, rfl, hother, (hperm.trans List.perm_middle).cons_inv, fun spot => ?_⟩
  have hspot := hturn spot
  rw [List.filter_append] at hspot ⊢
  by_cases hs : d.place s = spot
  · have hnone : before.filter (d.place · = spot) = [] := by
      rw [List.filter_eq_nil_iff]
      intro b hb
      rw [← hs]
      simpa using hother b hb
    rw [hnone, List.nil_append, List.filter_cons_of_pos (by simpa using hs),
      List.filter_cons_of_pos (by simpa using hs), List.cons.injEq] at hspot
    rw [hnone, List.nil_append, hspot.2]
  · rwa [List.filter_cons_of_neg (by simpa using hs), List.filter_cons_of_neg (by simpa using hs)]
      at hspot

theorem WellFormed.drawAll_reordered (wf : d.WellFormed) (h : Reordered d strokes strokes') :
    d.drawAll strokes' = d.drawAll strokes := by
  induction strokes generalizing d strokes' with
  | nil => rw [h.1.symm.eq_nil]
  | cons s strokes ih =>
    obtain ⟨before, after, rfl, hother, hrest⟩ := h.split
    have hs := wf.tracks_draw s.x s.y s.color
    have hnext : Reordered (d.draw s.x s.y s.color) strokes (before ++ after) := by
      simpa only [Reordered, hs.place] using hrest
    rw [wf.drawAll_middle hother]
    exact ih (wf.draw s.x s.y s.color) hnext

variable {σ : Type} [Screen σ]

/-- Strokes in another order that keeps those on one place in turn leave the same bytes and the same
dirty box, and a flush then ends the same way on the same screen, with the same rectangles and
payloads sent. -/
theorem setPixels_reordered (hd : d.Reachable) (h : Reordered d strokes strokes')
    (screen : Screen.Recorded σ) :
    ∃ drawn drawn', d.setPixels strokes = .ok drawn ∧ d.setPixels strokes' = .ok drawn' ∧
      drawn'.resident = drawn.resident ∧ drawn'.dirty = drawn.dirty ∧
      ∃ outcome flushed flushed' screen', drawn.flush screen = .ok (outcome, flushed, screen') ∧
        drawn'.flush screen = .ok (outcome, flushed', screen') := by
  have wf := hd.wellFormed
  have hsame := wf.drawAll_reordered h
  obtain ⟨outcome, flushed, screen', hflush, -⟩ := (wf.drawAll strokes).flush_ok screen
  refine ⟨d.drawAll strokes, d.drawAll strokes', wf.setPixels_eq strokes, wf.setPixels_eq strokes',
    ?_, ?_, outcome, flushed, flushed, screen', hflush, ?_⟩
  · rw [hsame]
  · rw [hsame]
  · rw [hsame, hflush]

theorem setPixels_reordered_two_places : ∃ drawn drawn',
    Reordered (withCanvas 3 1 2 1)
      [⟨1, 0, .solid 255 0 0⟩, ⟨3, 5, .solid 0 0 255⟩, ⟨2, 0, .solid 0 255 0⟩]
      [⟨2, 0, .solid 0 255 0⟩, ⟨1, 0, .solid 255 0 0⟩, ⟨3, 5, .solid 0 0 255⟩] ∧
    (withCanvas 3 1 2 1).setPixels
      [⟨1, 0, .solid 255 0 0⟩, ⟨3, 5, .solid 0 0 255⟩, ⟨2, 0, .solid 0 255 0⟩] = .ok drawn ∧
    (withCanvas 3 1 2 1).setPixels
      [⟨2, 0, .solid 0 255 0⟩, ⟨1, 0, .solid 255 0 0⟩, ⟨3, 5, .solid 0 0 255⟩] = .ok drawn' ∧
    drawn'.resident = drawn.resident ∧ drawn'.dirty = drawn.dirty ∧ drawn.dirty = ⟨0, 1, 0, 0⟩ := by
  have hreordered : Reordered (withCanvas 3 1 2 1)
      [⟨1, 0, .solid 255 0 0⟩, ⟨3, 5, .solid 0 0 255⟩, ⟨2, 0, .solid 0 255 0⟩]
      [⟨2, 0, .solid 0 255 0⟩, ⟨1, 0, .solid 255 0 0⟩, ⟨3, 5, .solid 0 0 255⟩] := by
    have hperm : [(⟨1, 0, .solid 255 0 0⟩ : Stroke), ⟨3, 5, .solid 0 0 255⟩,
        ⟨2, 0, .solid 0 255 0⟩].Perm
          [⟨2, 0, .solid 0 255 0⟩, ⟨1, 0, .solid 255 0 0⟩, ⟨3, 5, .solid 0 0 255⟩] := by
      decide
    have hred : (withCanvas 3 1 2 1).place ⟨1, 0, .solid 255 0 0⟩ = (1, 0) := rfl
    have hblue : (withCanvas 3 1 2 1).place ⟨3, 5, .solid 0 0 255⟩ = (1, 0) := rfl
    have hgreen : (withCanvas 3 1 2 1).place ⟨2, 0, .solid 0 255 0⟩ = (0, 0) := rfl
    refine ⟨hperm, fun spot => ?_⟩
    simp only [List.filter_cons, List.filter_nil, hred, hblue, hgreen]
    by_cases hspot : (1, 0) = spot
    · subst hspot
      rfl
    · simp only [hspot, decide_false, Bool.false_eq_true, if_false]
  obtain ⟨drawn, drawn', hdrawn, hdrawn', hresident, hdirty, -⟩ :=
    setPixels_reordered (.withCanvas 3 1 2 1) hreordered (⟨⟨[]⟩, []⟩ : Screen.Recorded Screen.Script)
  refine ⟨drawn, drawn', hreordered, hdrawn, hdrawn', hresident, hdirty, ?_⟩
  cases hdrawn
  rfl

end Display
end PictureFrame
