import Mathlib.Data.Set.Image
import Mathlib.Order.Bounds.Basic
import PictureFrame.Proofs.Display.Flush

set_option autoImplicit false

namespace PictureFrame

def columnsOf (points : Set (UInt16 × UInt16)) : Set Nat := (·.1.toNat) '' points

def rowsOf (points : Set (UInt16 × UInt16)) : Set Nat := (·.2.toNat) '' points

structure Rect.Tight (r : Rect) (points : Set (UInt16 × UInt16)) : Prop where
  left : IsLeast (columnsOf points) r.left.toNat
  right : ∃ last, IsGreatest (columnsOf points) last ∧ r.right.toNat = last + 1
  top : IsLeast (rowsOf points) r.top.toNat
  bottom : ∃ last, IsGreatest (rowsOf points) last ∧ r.bottom.toNat = last + 1

namespace DirtyBox

structure Tight (b : DirtyBox) (points : Set (UInt16 × UInt16)) : Prop where
  left : IsLeast (columnsOf points) b.minX.toNat
  right : IsGreatest (columnsOf points) b.maxX.toNat
  top : IsLeast (rowsOf points) b.minY.toNat
  bottom : IsGreatest (rowsOf points) b.maxY.toNat

/-- The box is the smallest one around the positions; without any of them, it is the empty box. -/
inductive Bounds (b : DirtyBox) (points : Set (UInt16 × UInt16)) : Prop
  | empty (box : b = .empty) (none : points = ∅)
  | tight (sides : b.Tight points)

variable {b : DirtyBox} {points : Set (UInt16 × UInt16)}

theorem empty_insert (x y : UInt16) : empty.insert x y = ⟨x, x, y, y⟩ := by
  have hmin : ∀ n : UInt16, min 0xFFFF n = n := by
    intro n
    have hn := n.toNat_lt
    apply UInt16.toNat_inj.1
    simp only [toNat_min16, UInt16.reduceToNat]
    omega
  have hmax : ∀ n : UInt16, max 0 n = n := by
    intro n
    apply UInt16.toNat_inj.1
    rw [toNat_max16, UInt16.toNat_zero, Nat.zero_max]
  simp only [insert, empty, hmin, hmax]

theorem tight_singleton (x y : UInt16) : Tight ⟨x, x, y, y⟩ {(x, y)} := by
  have hcolumns : columnsOf {(x, y)} = {x.toNat} := Set.image_singleton
  have hrows : rowsOf {(x, y)} = {y.toNat} := Set.image_singleton
  constructor
  · rw [hcolumns]
    exact isLeast_singleton
  · rw [hcolumns]
    exact isGreatest_singleton
  · rw [hrows]
    exact isLeast_singleton
  · rw [hrows]
    exact isGreatest_singleton

theorem Tight.insert (h : b.Tight points) (x y : UInt16) :
    (b.insert x y).Tight (Insert.insert (x, y) points) := by
  have hcolumns : columnsOf (Insert.insert (x, y) points) =
      Insert.insert x.toNat (columnsOf points) := Set.image_insert_eq
  have hrows : rowsOf (Insert.insert (x, y) points) = Insert.insert y.toNat (rowsOf points) :=
    Set.image_insert_eq
  constructor
  · rw [hcolumns, DirtyBox.insert, toNat_min16, min_comm]
    exact h.left.insert x.toNat
  · rw [hcolumns, DirtyBox.insert, toNat_max16, max_comm]
    exact h.right.insert x.toNat
  · rw [hrows, DirtyBox.insert, toNat_min16, min_comm]
    exact h.top.insert y.toNat
  · rw [hrows, DirtyBox.insert, toNat_max16, max_comm]
    exact h.bottom.insert y.toNat

theorem Bounds.insert (h : b.Bounds points) (x y : UInt16) :
    (b.insert x y).Bounds (Insert.insert (x, y) points) := by
  cases h with
  | empty box none =>
    rw [box, none, insert_empty_eq, empty_insert]
    exact .tight (tight_singleton x y)
  | tight sides => exact .tight (sides.insert x y)

theorem Tight.nonempty (h : b.Tight points) : points.Nonempty := h.left.nonempty.of_image

theorem Bounds.eq_empty_iff (h : b.Bounds points) : b = .empty ↔ points = ∅ := by
  cases h with
  | empty box none => exact iff_of_true box none
  | tight sides =>
    refine iff_of_false ?_ sides.nonempty.ne_empty
    rintro rfl
    exact absurd (sides.left.2 sides.right.1) (by decide)

theorem Bounds.tight_of_ne (h : b.Bounds points) (hne : b ≠ .empty) : b.Tight points := by
  cases h with
  | empty box none => exact absurd box hne
  | tight sides => exact sides

theorem Within.ne_empty {width height : Nat} (h : b.Within width height) : b ≠ .empty := by
  rintro rfl
  exact absurd h.1 (by decide)

theorem Tight.rect {width height : UInt16} (h : b.Tight points)
    (hwithin : b.Within width.toNat height.toNat) : b.rect.Tight points := by
  obtain ⟨hright, hbottom⟩ := hwithin.toNat_next
  exact ⟨h.left, ⟨_, h.right, hright⟩, h.top, _, h.bottom, hbottom⟩

end DirtyBox

namespace Display

variable {d : Display} {points : Set (UInt16 × UInt16)}

/-- The pixel of the panel, if any, that would get another value. -/
def altered (d : Display) (x y : UInt32) (p : Packed) : Set (UInt16 × UInt16) :=
  {q | q.1.toNat = d.column x ∧ q.2.toNat = d.line y ∧ d.OnPanel q.1.toNat q.2.toNat ∧
    d.grid q.1.toNat q.2.toNat ≠ p}

theorem altered_eq_empty {x y : UInt32} {p : Packed}
    (h : d.OnPanel (d.column x) (d.line y) → d.grid (d.column x) (d.line y) = p) :
    d.altered x y p = ∅ := by
  refine Set.eq_empty_iff_forall_notMem.2 ?_
  rintro q ⟨hcolumn, hline, hpanel, hne⟩
  rw [hcolumn, hline] at hpanel hne
  exact hne (h hpanel)

theorem altered_eq_singleton {x y : UInt32} {p : Packed} (hpanel : d.OnPanel (d.column x) (d.line y))
    (hne : d.grid (d.column x) (d.line y) ≠ p) :
    d.altered x y p = {(.ofNat (d.column x), .ofNat (d.line y))} := by
  have hx := toNat_ofNat_of_lt_word hpanel.1
  have hy := toNat_ofNat_of_lt_word hpanel.2
  ext q
  rw [Set.mem_singleton_iff, Prod.ext_iff, ← UInt16.toNat_inj, ← UInt16.toNat_inj, hx, hy]
  constructor
  · rintro ⟨hcolumn, hline, -⟩
    exact ⟨hcolumn, hline⟩
  · rintro ⟨hcolumn, hline⟩
    refine ⟨hcolumn, hline, ?_⟩
    rw [hcolumn, hline]
    exact ⟨hpanel, hne⟩

theorem bounds_draw (h : d.dirty.Bounds points) (x y : UInt32) (color : Color) :
    (d.draw x y color).dirty.Bounds (d.altered x y color.packed ∪ points) := by
  unfold draw
  split_ifs with hpanel
  · rw [paint, toNat_ofNat_of_lt_word hpanel.1, toNat_ofNat_of_lt_word hpanel.2]
    split_ifs with hsame
    · rwa [altered_eq_empty fun _ => hsame, Set.empty_union]
    · rw [altered_eq_singleton hpanel hsame, Set.singleton_union]
      exact h.insert _ _
  · rwa [altered_eq_empty fun hon => absurd hon hpanel, Set.empty_union]

theorem WellFormed.altered_draw (wf : d.WellFormed) {x y u v : UInt32} (color : Color) (p : Packed)
    (h : ¬ (d.column u = d.column x ∧ d.line v = d.line y)) :
    (d.draw x y color).altered u v p = d.altered u v p := by
  have ht := wf.tracks_draw x y color
  ext q
  simp only [altered, Set.mem_ofPred_eq, ht.column, ht.line, ht.onPanel]
  refine and_congr_right fun hcolumn => and_congr_right fun hline => and_congr_right fun hpanel => ?_
  rw [wf.grid_draw x y color hpanel, hcolumn, hline, if_neg h]

end Display
end PictureFrame
