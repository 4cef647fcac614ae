import Mathlib.Data.Nat.ModEq
import PictureFrame.Proofs.Session.Repetition

set_option autoImplicit false

/-!
# Regions that wrap around the canvas

Positions of a region are taken modulo the canvas, and they are copied row by row. So a pixel of the
panel has the colour of the greatest column and the greatest row of the region that fall on it, and
keeps its own if no column or no row does.
-/
namespace PictureFrame.Session

variable {fb : Framebuffer} {d : Display} {p q r : UInt32 × UInt32}

def Precedes (p q : UInt32 × UInt32) : Prop := p.2 < q.2 ∨ p.2 = q.2 ∧ p.1 < q.1

theorem interval_pairwise (first stop : UInt32) : (interval first stop).Pairwise (· < ·) := by
  have hstop := stop.toNat_lt
  rw [interval, List.pairwise_map]
  refine (List.pairwise_lt_range' 1).imp_of_mem ?_
  intro m n hm hn hlt
  rw [List.mem_range'_1] at hm hn
  rw [UInt32.lt_iff_toNat_lt, UInt32.toNat_ofNat_of_lt' (by simp only [UInt32.size]; omega),
    UInt32.toNat_ofNat_of_lt' (by simp only [UInt32.size]; omega)]
  exact hlt

theorem positions_pairwise (fb : Framebuffer) (x y width height : UInt32) :
    (positions fb x y width height).Pairwise Precedes := by
  rw [positions, List.pairwise_flatMap]
  constructor
  · intro row _
    rw [List.pairwise_map]
    exact (interval_pairwise _ _).imp fun hlt => .inr ⟨rfl, hlt⟩
  · refine (interval_pairwise _ _).imp ?_
    intro row later hlt p hp q hq
    obtain ⟨_, -, rfl⟩ := List.mem_map.1 hp
    obtain ⟨_, -, rfl⟩ := List.mem_map.1 hq
    exact .inl hlt

theorem LastOn.eq_or_before {R : UInt32 × UInt32 → UInt32 × UInt32 → Prop}
    {positions : List (UInt32 × UInt32)} (h : LastOn d positions p q)
    (hordered : positions.Pairwise R) (hr : r ∈ positions) (hon : Coincide d p r) :
    r = q ∨ R r q := by
  obtain ⟨before, after, rfl, -, hafter⟩ := h
  rcases List.mem_append.1 hr with hbefore | hrest
  · exact .inr ((List.pairwise_append.1 hordered).2.2 r hbefore q List.mem_cons_self)
  · rcases List.mem_cons.1 hrest with rfl | hlater
    · exact .inl rfl
    · exact absurd hon (hafter r hlater)

/-- The columns, or the rows, of a region in a framebuffer that are congruent to one of the panel
modulo that side of the canvas. No sum wraps. -/
def falling (first length limit : UInt32) (side place : UInt16) : Set Nat :=
  {n | first.toNat ≤ n ∧ n < first.toNat + length.toNat ∧ n < limit.toNat ∧
    n ≡ place.toNat [MOD side.toNat]}

/-- Some column and some row of the region fall on the pixel, which lies on the canvas. -/
def Reaches (fb : Framebuffer) (d : Display) (r : Region) (u v : UInt16) : Prop :=
  u < d.canvasWidth ∧ v < d.canvasHeight ∧
    (falling r.x r.width fb.width d.canvasWidth u).Nonempty ∧
    (falling r.y r.height fb.height d.canvasHeight v).Nonempty

variable {region : Region} {u v : UInt16}

theorem mem_positions_iff_falling (hu : u < d.canvasWidth) (hv : v < d.canvasHeight) :
    p ∈ region.positions fb ∧ u.toNat = d.column p.1 ∧ v.toNat = d.line p.2 ↔
      p.1.toNat ∈ falling region.x region.width fb.width d.canvasWidth u ∧
        p.2.toNat ∈ falling region.y region.height fb.height d.canvasHeight v := by
  simp only [Region.positions, mem_positions, InRegion, UInt32.lt_iff_toNat_lt, falling,
    Set.mem_ofPred_eq, Nat.ModEq, Nat.mod_eq_of_lt (UInt16.lt_iff_toNat_lt.1 hu),
    Nat.mod_eq_of_lt (UInt16.lt_iff_toNat_lt.1 hv), Display.column, Display.line]
  omega

/-- The last position on a pixel has the greatest column and the greatest row that fall on it. -/
theorem LastOn.greatest (h : LastOn d (region.positions fb) p q) (hu : u < d.canvasWidth)
    (hv : v < d.canvasHeight) (hpu : u.toNat = d.column p.1) (hpv : v.toNat = d.line p.2) :
    IsGreatest (falling region.x region.width fb.width d.canvasWidth u) q.1.toNat ∧
      IsGreatest (falling region.y region.height fb.height d.canvasHeight v) q.2.toNat := by
  have hordered := positions_pairwise fb region.x region.y region.width region.height
  have hq : q ∈ region.positions fb ∧ u.toNat = d.column q.1 ∧ v.toNat = d.line q.2 := by
    obtain ⟨before, after, hsplit, hon, -⟩ := h
    refine ⟨?_, hpu.trans hon.1, hpv.trans hon.2⟩
    rw [hsplit]
    exact List.mem_append_right before List.mem_cons_self
  obtain ⟨hcolumn, hrow⟩ := (mem_positions_iff_falling hu hv).1 hq
  -- Whatever falls on the pixel makes a position with the other side of `q`, which cannot be later.
  have hlast : ∀ r : UInt32 × UInt32,
      r.1.toNat ∈ falling region.x region.width fb.width d.canvasWidth u →
      r.2.toNat ∈ falling region.y region.height fb.height d.canvasHeight v →
        r = q ∨ Precedes r q := by
    intro r hr₁ hr₂
    obtain ⟨hr, hru, hrv⟩ := (mem_positions_iff_falling hu hv).2 ⟨hr₁, hr₂⟩
    exact h.eq_or_before hordered hr ⟨hpu.symm.trans hru, hpv.symm.trans hrv⟩
  refine ⟨⟨hcolumn, ?_⟩, ⟨hrow, ?_⟩⟩
  · intro n hn
    obtain ⟨w, rfl⟩ := exists_word32 hn.2.2.1
    rcases hlast (w, q.2) hn hrow with heq | hrowLt | ⟨-, hcolumnLt⟩
    · rw [← heq]
    · exact absurd hrowLt (UInt32.lt_irrefl q.2)
    · exact Nat.le_of_lt hcolumnLt
  · intro n hn
    obtain ⟨w, rfl⟩ := exists_word32 hn.2.2.1
    rcases hlast (q.1, w) hcolumn hn with heq | hrowLt | ⟨-, hcolumnLt⟩
    · rw [← heq]
    · exact Nat.le_of_lt hrowLt
    · exact absurd hcolumnLt (UInt32.lt_irrefl q.1)

theorem grid_copied_of_reaches (wf : d.WellFormed) (huv : d.OnPanel u.toNat v.toNat)
    (h : Reaches fb d region u v) : ∃ q : UInt32 × UInt32,
      IsGreatest (falling region.x region.width fb.width d.canvasWidth u) q.1.toNat ∧
      IsGreatest (falling region.y region.height fb.height d.canvasHeight v) q.2.toNat ∧
      (copied fb (region.positions fb) d).grid u.toNat v.toNat = packedAt fb q := by
  obtain ⟨hu, hv, ⟨m, hm⟩, n, hn⟩ := h
  obtain ⟨m, rfl⟩ := exists_word32 hm.2.2.1
  obtain ⟨n, rfl⟩ := exists_word32 hn.2.2.1
  obtain ⟨hp, hpu, hpv⟩ := (mem_positions_iff_falling (p := (m, n)) hu hv).2 ⟨hm, hn⟩
  obtain ⟨q, hlast⟩ : ∃ q, LastOn d (region.positions fb) (m, n) q :=
    exists_lastOn ⟨(m, n), hp, rfl, rfl⟩
  obtain ⟨hcolumn, hrow⟩ := hlast.greatest hu hv hpu hpv
  refine ⟨q, hcolumn, hrow, ?_⟩
  rw [hpu, hpv] at huv ⊢
  exact hlast.grid_copied wf huv

theorem grid_copied_of_not_reaches (wf : d.WellFormed) (huv : d.OnPanel u.toNat v.toNat)
    (h : ¬ Reaches fb d region u v) :
    (copied fb (region.positions fb) d).grid u.toNat v.toNat = d.grid u.toNat v.toNat := by
  refine grid_copied_of_missed wf huv ?_
  intro q hq hon
  have hu : u < d.canvasWidth := by
    rw [UInt16.lt_iff_toNat_lt, hon.1]
    exact Nat.mod_lt _ wf.canvasWidth_pos
  have hv : v < d.canvasHeight := by
    rw [UInt16.lt_iff_toNat_lt, hon.2]
    exact Nat.mod_lt _ wf.canvasHeight_pos
  obtain ⟨hcolumn, hrow⟩ := (mem_positions_iff_falling hu hv).1 ⟨hq, hon⟩
  exact h ⟨hu, hv, ⟨_, hcolumn⟩, _, hrow⟩

variable {σ : Type} [Screen σ] {s : Session σ}

/-- An update copies to each pixel of the panel the framebuffer's colour at the greatest column and
the greatest row of the region that fall on it. All other pixels and the framebuffer stay as they
are, and nothing is dirty afterwards. -/
theorem update_wraps (hd : d.Reachable) (screen : σ) {ops : List Op} {outcomes : List Flush}
    (h : run ops (start screen d) = .ok (outcomes, s)) (hfb : s.framebuffer = some fb)
    (x y width height : UInt32) :
    ∃ outcome s', s.update x y width height = .ok (outcome, s') ∧
      s'.framebuffer = some fb ∧ s'.display.dirty = .empty ∧
      ∀ u v : UInt16, u < d.width → v < d.height →
        (Reaches fb d ⟨x, y, width, height⟩ u v → ∃ column row color,
          IsGreatest (falling x width fb.width d.canvasWidth u) column.toNat ∧
          IsGreatest (falling y height fb.height d.canvasHeight v) row.toNat ∧
          fb.pixel column row = .ok (some color) ∧
          s'.display.pixel u v = .ok (some color.packed)) ∧
        (¬ Reaches fb d ⟨x, y, width, height⟩ u v →
          s'.display.pixel u v = s.display.pixel u v) := by
  have wf := run_wellFormed (start_wellFormed hd.wellFormed screen) h
  obtain ⟨hcanvasWidth, hcanvasHeight⟩ := run_canvas hd.wellFormed h
  obtain ⟨outcome, s', hupdate, hstep⟩ := wf.update_step x y width height
  have hshows : Shows fb [⟨x, y, width, height⟩] s s' := Step.shows hstep wf hfb
  have hpixels : ∀ u v, s'.display.grid u v =
      (copied fb (Region.positions ⟨x, y, width, height⟩ fb) s.display).grid u v := by
    intro u v
    rw [hshows.pixels.grid, announced, List.flatMap_singleton]
  refine ⟨outcome, s', hupdate, hshows.framebuffer, hshows.clean (.inl (List.cons_ne_nil _ _)), ?_⟩
  intro u v hu hv
  have huv := run_onPanel hd.wellFormed h hu hv
  have huv' := run_onPanel hd.wellFormed (run_concat h (perform_update hupdate)) hu hv
  have hreaches : Reaches fb s.display ⟨x, y, width, height⟩ u v ↔
      Reaches fb d ⟨x, y, width, height⟩ u v := by
    rw [Reaches, Reaches, hcanvasWidth, hcanvasHeight]
  rw [hshows.wellFormed.display.pixel_eq huv', wf.display.pixel_eq huv, hpixels, ← hreaches]
  constructor
  · intro hon
    obtain ⟨q, hcolumn, hrow, hcolor⟩ := grid_copied_of_reaches wf.display huv hon
    rw [hcanvasWidth] at hcolumn
    rw [hcanvasHeight] at hrow
    refine ⟨q.1, q.2, fb.color q.1.toNat q.2.toNat, hcolumn, hrow, ?_, ?_⟩
    · rw [(wf.framebuffer fb hfb).pixel_eq, if_pos ⟨hcolumn.1.2.2.1, hrow.1.2.2.1⟩]
    · rw [hcolor]
      rfl
  · intro hoff
    rw [grid_copied_of_not_reaches wf.display huv hoff]

theorem update_wraps_two_columns : ∃ s s' : Session Screen.Script,
    run [.allocate 5 1, .setPixel 2 0 (.solid 255 0 0), .setPixel 4 0 (.solid 0 0 255)]
      (start ⟨[]⟩ (.withCanvas 3 1 2 1)) = .ok ([], s) ∧
    s.update 1 0 3 4294967295 = .ok (.sent ⟨0, 0, 3, 1⟩ 0, s') ∧
    s'.display.dirty = .empty ∧ s'.display.pixel 0 0 = .ok (some ⟨0xF8, 0⟩) ∧
    s'.display.pixel 2 0 = s.display.pixel 2 0 := by
  have hrun : ∃ (s s' : Session Screen.Script) (fb : Framebuffer),
      run [.allocate 5 1, .setPixel 2 0 (.solid 255 0 0), .setPixel 4 0 (.solid 0 0 255)]
        (start ⟨[]⟩ (.withCanvas 3 1 2 1)) = .ok ([], s) ∧
      s.update 1 0 3 4294967295 = .ok (.sent ⟨0, 0, 3, 1⟩ 0, s') ∧ s.framebuffer = some fb ∧
      fb.width = 5 ∧ fb.height = 1 ∧ fb.pixel 2 0 = .ok (some (.solid 255 0 0)) :=
    ⟨_, _, _, rfl, rfl, rfl, rfl, rfl, rfl⟩
  obtain ⟨s, s', fb, hs, hupdate, hfb, hwidth, hheight, hred⟩ := hrun
  obtain ⟨_, _, heq, -, hclean, hpixels⟩ :=
    update_wraps (.withCanvas 3 1 2 1) ⟨[]⟩ hs hfb 1 0 3 4294967295
  cases hupdate.symm.trans heq
  have hcolumns : IsGreatest (falling 1 3 fb.width 2 0) (2 : UInt32).toNat := by
    rw [hwidth]
    refine ⟨⟨by decide, by decide, by decide, rfl⟩, ?_⟩
    intro n hn
    obtain ⟨-, hlast, -, hmod⟩ := hn
    simp only [Nat.ModEq, UInt32.reduceToNat, UInt16.reduceToNat] at hlast hmod ⊢
    omega
  have hrows : IsGreatest (falling 0 4294967295 fb.height 1 0) (0 : UInt32).toNat := by
    rw [hheight]
    refine ⟨⟨by decide, by decide, by decide, rfl⟩, ?_⟩
    intro n hn
    exact Nat.le_of_lt_succ hn.2.2.1
  obtain ⟨column, row, color, hcolumn, hrow, hcolor, hshown⟩ :=
    (hpixels 0 0 (by decide) (by decide)).1 ⟨by decide, by decide, ⟨_, hcolumns.1⟩, _, hrows.1⟩
  cases UInt32.toNat_inj.1 (hcolumn.unique hcolumns)
  cases UInt32.toNat_inj.1 (hrow.unique hrows)
  cases hred.symm.trans hcolor
  refine ⟨s, s', hs, hupdate, hclean, hshown, (hpixels 2 0 (by decide) (by decide)).2 ?_⟩
  rintro ⟨hcanvas, -⟩
  exact absurd hcanvas (by decide)

end PictureFrame.Session
