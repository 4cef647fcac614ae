import PictureFrame.Proofs.Display.Strokes
import PictureFrame.Proofs.Framebuffer

set_option autoImplicit false

namespace PictureFrame.Session

theorem clippedEnd_toNat (first length limit : UInt32) :
    (clippedEnd first length limit).toNat = min (first.toNat + length.toNat) limit.toNat := by
  have hlimit := limit.toNat_lt
  rw [clippedEnd, toNat_min32, UInt32.toNat_ofNat_of_lt' (by simp only [UInt32.size]; omega)]
  omega

theorem mem_interval {first stop n : UInt32} :
    n ∈ interval first stop ↔ first.toNat ≤ n.toNat ∧ n.toNat < stop.toNat := by
  have hstop := stop.toNat_lt
  simp only [interval, List.mem_map, List.mem_range'_1]
  constructor
  · intro h
    obtain ⟨k, hk, rfl⟩ := h
    rw [UInt32.toNat_ofNat_of_lt' (by simp only [UInt32.size]; omega)]
    omega
  · intro hn
    exact ⟨n.toNat, by omega, UInt32.ofNat_toNat⟩

/-- The region of an announcement contains the position; no sum of sides wraps. -/
def InRegion (x y width height : UInt32) (u v : Nat) : Prop :=
  x.toNat ≤ u ∧ u < x.toNat + width.toNat ∧ y.toNat ≤ v ∧ v < y.toNat + height.toNat

theorem mem_positions {fb : Framebuffer} {x y width height : UInt32} {p : UInt32 × UInt32} :
    p ∈ positions fb x y width height ↔
      InRegion x y width height p.1.toNat p.2.toNat ∧ p.1 < fb.width ∧ p.2 < fb.height := by
  obtain ⟨u, v⟩ := p
  simp only [positions, List.mem_flatMap, List.mem_map, mem_interval, clippedEnd_toNat, InRegion,
    UInt32.lt_iff_toNat_lt]
  constructor
  · intro h
    obtain ⟨row, hrow, column, hcolumn, heq⟩ := h
    cases heq
    omega
  · intro h
    obtain ⟨hregion, hu, hv⟩ := h
    exact ⟨v, by omega, u, by omega, rfl⟩

def copied (fb : Framebuffer) (positions : List (UInt32 × UInt32)) (d : Display) : Display :=
  positions.foldl (fun d p => d.draw p.1 p.2 (fb.color p.1.toNat p.2.toNat)) d

variable {fb : Framebuffer} {d : Display}

theorem copyPixel_eq (wf : d.WellFormed) (hfb : fb.WellFormed) {p : UInt32 × UInt32}
    (hx : p.1 < fb.width) (hy : p.2 < fb.height) :
    copyPixel fb d p = .ok (d.draw p.1 p.2 (fb.color p.1.toNat p.2.toNat)) := by
  rw [copyPixel, hfb.pixel_eq, if_pos ⟨hx, hy⟩]
  exact wf.setPixel_eq _ _ _

theorem copied_eq_drawAll (fb : Framebuffer) (positions : List (UInt32 × UInt32)) (d : Display) :
    copied fb positions d =
      d.drawAll (positions.map fun p => ⟨p.1, p.2, fb.color p.1.toNat p.2.toNat⟩) := by
  rw [Display.drawAll, List.foldl_map]
  rfl

theorem copied_wellFormed (wf : d.WellFormed) (fb : Framebuffer)
    (positions : List (UInt32 × UInt32)) : (copied fb positions d).WellFormed := by
  rw [copied_eq_drawAll]
  exact wf.drawAll _

theorem copyRegion_eq (wf : d.WellFormed) (hfb : fb.WellFormed) (x y width height : UInt32) :
    copyRegion fb d x y width height = .ok (copied fb (positions fb x y width height) d) := by
  refine (Checked.foldlM_eq_ok Display.WellFormed _ _ wf ?_).1
  intro d wf p hp
  obtain ⟨-, hx, hy⟩ := mem_positions.1 hp
  exact ⟨copyPixel_eq wf hfb hx hy, wf.draw _ _ _⟩

theorem tracks_copied (wf : d.WellFormed) (fb : Framebuffer) (positions : List (UInt32 × UInt32)) :
    Display.Tracks d (copied fb positions d) := by
  rw [copied_eq_drawAll]
  exact wf.tracks_drawAll _

/-- On a canvas that holds all the positions, each of them is one pixel of its own. -/
theorem grid_copied (wf : d.WellFormed) (fb : Framebuffer) {positions : List (UInt32 × UInt32)}
    (hcanvas : ∀ p ∈ positions,
      p.1.toNat < d.canvasWidth.toNat ∧ p.2.toNat < d.canvasHeight.toNat)
    {u v : Nat} (huv : d.OnPanel u v) : (copied fb positions d).grid u v =
      if ∃ p ∈ positions, p.1.toNat = u ∧ p.2.toNat = v then (fb.color u v).packed
      else d.grid u v := by
  induction positions generalizing d with
  | nil => simp [copied]
  | cons p positions ih =>
    have ht := wf.tracks_draw p.1 p.2 (fb.color p.1.toNat p.2.toNat)
    have hhead := hcanvas p List.mem_cons_self
    have htail := ih (wf.draw p.1 p.2 (fb.color p.1.toNat p.2.toNat))
      (fun q hq => by
        rw [ht.canvas.1, ht.canvas.2]
        exact hcanvas q (List.mem_cons_of_mem p hq))
      ((ht.onPanel u v).2 huv)
    have hcolumn : d.column p.1 = p.1.toNat := Nat.mod_eq_of_lt hhead.1
    have hline : d.line p.2 = p.2.toNat := Nat.mod_eq_of_lt hhead.2
    change (copied fb positions (d.draw p.1 p.2 (fb.color p.1.toNat p.2.toNat))).grid u v = _
    rw [htail, wf.grid_draw _ _ _ huv, hcolumn, hline]
    by_cases hmem : ∃ q ∈ positions, q.1.toNat = u ∧ q.2.toNat = v
    · obtain ⟨q, hq, hqu⟩ := hmem
      rw [if_pos ⟨q, hq, hqu⟩, if_pos ⟨q, List.mem_cons_of_mem p hq, hqu⟩]
    · by_cases hsame : u = p.1.toNat ∧ v = p.2.toNat
      · obtain ⟨rfl, rfl⟩ := hsame
        rw [if_neg hmem, if_pos ⟨rfl, rfl⟩, if_pos ⟨p, List.mem_cons_self, rfl, rfl⟩]
      · have hnone : ¬ ∃ q ∈ p :: positions, q.1.toNat = u ∧ q.2.toNat = v := by
          intro hex
          obtain ⟨q, hq, hqu⟩ := hex
          rcases List.mem_cons.1 hq with rfl | hq
          · exact hsame ⟨hqu.1.symm, hqu.2.symm⟩
          · exact hmem ⟨q, hq, hqu⟩
        rw [if_neg hmem, if_neg hsame, if_neg hnone]

def OnCanvas (fb : Framebuffer) (d : Display) : Prop :=
  fb.width.toNat ≤ d.canvasWidth.toNat ∧ fb.height.toNat ≤ d.canvasHeight.toNat

theorem OnCanvas.positions (h : OnCanvas fb d) {x y width height : UInt32} :
    ∀ p ∈ positions fb x y width height,
      p.1.toNat < d.canvasWidth.toNat ∧ p.2.toNat < d.canvasHeight.toNat := by
  intro p hp
  obtain ⟨-, hx, hy⟩ := mem_positions.1 hp
  exact ⟨Nat.lt_of_lt_of_le hx h.1, Nat.lt_of_lt_of_le hy h.2⟩

section Agreement

variable {x y width height : UInt32} {u v : Nat}

theorem grid_copied_of_inRegion (wf : d.WellFormed) (hfit : OnCanvas fb d) (huv : d.OnPanel u v)
    (hu : u < fb.width.toNat) (hv : v < fb.height.toNat) (h : InRegion x y width height u v) :
    (copied fb (positions fb x y width height) d).grid u v = (fb.color u v).packed := by
  obtain ⟨column, rfl⟩ := exists_word32 hu
  obtain ⟨row, rfl⟩ := exists_word32 hv
  rw [grid_copied wf fb hfit.positions huv, if_pos]
  exact ⟨(column, row), mem_positions.2 ⟨h, hu, hv⟩, rfl, rfl⟩

theorem grid_copied_of_not_inRegion (wf : d.WellFormed) (hfit : OnCanvas fb d)
    (huv : d.OnPanel u v) (h : ¬ InRegion x y width height u v) :
    (copied fb (positions fb x y width height) d).grid u v = d.grid u v := by
  rw [grid_copied wf fb hfit.positions huv, if_neg]
  intro hex
  obtain ⟨p, hp, rfl, rfl⟩ := hex
  exact h (mem_positions.1 hp).1

end Agreement

end PictureFrame.Session
