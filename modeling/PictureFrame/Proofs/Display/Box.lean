import PictureFrame.Proofs.Display.Changes

set_option autoImplicit false

namespace PictureFrame

structure Rect.Encloses (outer inner : Rect) : Prop where
  left : outer.left ≤ inner.left
  top : outer.top ≤ inner.top
  right : inner.right ≤ outer.right
  bottom : inner.bottom ≤ outer.bottom

structure Rect.Smallest (r : Rect) (points : Set (UInt16 × UInt16)) : Prop where
  contains : ∀ q ∈ points, r.Contains q.1.toNat q.2.toNat
  enclosed : ∀ outer : Rect, (∀ q ∈ points, outer.Contains q.1.toNat q.2.toNat) → outer.Encloses r

variable {points : Set (UInt16 × UInt16)} {positions : List (UInt16 × UInt16)}

theorem column_mem {q : UInt16 × UInt16} (h : q ∈ points) : q.1.toNat ∈ columnsOf points :=
  Set.mem_image_of_mem (·.1.toNat) h

theorem row_mem {q : UInt16 × UInt16} (h : q ∈ points) : q.2.toNat ∈ rowsOf points :=
  Set.mem_image_of_mem (·.2.toNat) h

theorem Rect.Tight.smallest {r : Rect} (h : r.Tight points) : r.Smallest points := by
  obtain ⟨lastColumn, hlastColumn, hright⟩ := h.right
  obtain ⟨lastRow, hlastRow, hbottom⟩ := h.bottom
  constructor
  · intro q hq
    have hcolumn := hlastColumn.2 (column_mem hq)
    have hrow := hlastRow.2 (row_mem hq)
    exact ⟨h.left.2 (column_mem hq), by omega, h.top.2 (row_mem hq), by omega⟩
  · intro outer houter
    have hminX : ∀ x ∈ columnsOf points, outer.left.toNat ≤ x :=
      Set.forall_mem_image.2 fun q hq => (houter q hq).1
    have hmaxX : ∀ x ∈ columnsOf points, x < outer.right.toNat :=
      Set.forall_mem_image.2 fun q hq => (houter q hq).2.1
    have hminY : ∀ y ∈ rowsOf points, outer.top.toNat ≤ y :=
      Set.forall_mem_image.2 fun q hq => (houter q hq).2.2.1
    have hmaxY : ∀ y ∈ rowsOf points, y < outer.bottom.toNat :=
      Set.forall_mem_image.2 fun q hq => (houter q hq).2.2.2
    refine ⟨hminX _ h.left.1, hminY _ h.top.1, ?_, ?_⟩
    · exact UInt16.le_iff_toNat_le.2 (hright ▸ hmaxX _ hlastColumn.1)
    · exact UInt16.le_iff_toNat_le.2 (hbottom ▸ hmaxY _ hlastRow.1)

namespace DirtyBox

structure Encloses (outer inner : DirtyBox) : Prop where
  left : outer.minX ≤ inner.minX
  right : inner.maxX ≤ outer.maxX
  top : outer.minY ≤ inner.minY
  bottom : inner.maxY ≤ outer.maxY

structure Smallest (b : DirtyBox) (points : Set (UInt16 × UInt16)) : Prop where
  contains : ∀ q ∈ points, b.Contains q.1.toNat q.2.toNat
  enclosed : ∀ outer : DirtyBox, (∀ q ∈ points, outer.Contains q.1.toNat q.2.toNat) →
    outer.Encloses b

def insertAll (b : DirtyBox) (positions : List (UInt16 × UInt16)) : DirtyBox :=
  positions.foldl (fun b q => b.insert q.1 q.2) b

variable {b b' : DirtyBox}

theorem Tight.smallest (h : b.Tight points) : b.Smallest points := by
  constructor
  · intro q hq
    exact ⟨h.left.2 (column_mem hq), h.right.2 (column_mem hq), h.top.2 (row_mem hq),
      h.bottom.2 (row_mem hq)⟩
  · intro outer houter
    have hminX : ∀ x ∈ columnsOf points, outer.minX.toNat ≤ x :=
      Set.forall_mem_image.2 fun q hq => (houter q hq).1
    have hmaxX : ∀ x ∈ columnsOf points, x ≤ outer.maxX.toNat :=
      Set.forall_mem_image.2 fun q hq => (houter q hq).2.1
    have hminY : ∀ y ∈ rowsOf points, outer.minY.toNat ≤ y :=
      Set.forall_mem_image.2 fun q hq => (houter q hq).2.2.1
    have hmaxY : ∀ y ∈ rowsOf points, y ≤ outer.maxY.toNat :=
      Set.forall_mem_image.2 fun q hq => (houter q hq).2.2.2
    exact ⟨hminX _ h.left.1, hmaxX _ h.right.1, hminY _ h.top.1, hmaxY _ h.bottom.1⟩

theorem Tight.unique (h : b.Tight points) (h' : b'.Tight points) : b = b' := by
  have hminX := UInt16.toNat_inj.1 (h.left.unique h'.left)
  have hmaxX := UInt16.toNat_inj.1 (h.right.unique h'.right)
  have hminY := UInt16.toNat_inj.1 (h.top.unique h'.top)
  have hmaxY := UInt16.toNat_inj.1 (h.bottom.unique h'.bottom)
  cases b
  cases b'
  simp only [mk.injEq]
  exact ⟨hminX, hmaxX, hminY, hmaxY⟩

theorem Bounds.tight_of_nonempty (h : b.Bounds points) (hsome : points.Nonempty) :
    b.Tight points := by
  cases h with
  | empty box none => exact absurd none hsome.ne_empty
  | tight sides => exact sides

theorem Bounds.unique (h : b.Bounds points) (h' : b'.Bounds points) : b = b' := by
  cases h with
  | empty box none => rw [box, h'.eq_empty_iff.2 none]
  | tight sides => exact sides.unique (h'.tight_of_nonempty sides.nonempty)

theorem Bounds.insertAll (h : b.Bounds points) (positions : List (UInt16 × UInt16)) :
    (b.insertAll positions).Bounds ({q | q ∈ positions} ∪ points) := by
  induction positions generalizing b points with
  | nil =>
    have hnone : {q | q ∈ ([] : List (UInt16 × UInt16))} = ∅ :=
      Set.eq_empty_iff_forall_notMem.2 fun _ => List.not_mem_nil
    rwa [hnone, Set.empty_union]
  | cons q positions ih =>
    have hset : {p | p ∈ q :: positions} ∪ points =
        {p | p ∈ positions} ∪ Insert.insert (q.1, q.2) points := by
      ext p
      simp only [Set.mem_union, Set.mem_ofPred_eq, List.mem_cons, Set.mem_insert_iff]
      rw [or_assoc, or_left_comm]
    rw [hset]
    exact ih (h.insert q.1 q.2)

theorem bounds_insertAll_empty (positions : List (UInt16 × UInt16)) :
    (empty.insertAll positions).Bounds {q | q ∈ positions} := by
  have hbounds : (empty.insertAll positions).Bounds ({q | q ∈ positions} ∪ ∅) :=
    Bounds.insertAll (.empty rfl rfl) positions
  rwa [Set.union_empty] at hbounds

theorem mem_eq_empty_iff : {q | q ∈ positions} = ∅ ↔ positions = [] := by
  rw [Set.eq_empty_iff_forall_notMem, List.eq_nil_iff_forall_not_mem]
  rfl

theorem tight_insertAll_empty (h : positions ≠ []) :
    (empty.insertAll positions).Tight {q | q ∈ positions} :=
  (bounds_insertAll_empty positions).tight_of_nonempty
    (Set.nonempty_iff_ne_empty.2 (mem_eq_empty_iff.not.2 h))

theorem isEmpty_eq_false_iff :
    b.isEmpty = false ↔ b.minX.toNat ≤ b.maxX.toNat ∧ b.minY.toNat ≤ b.maxY.toNat := by
  simp only [isEmpty, decide_eq_false_iff_not, UInt16.lt_iff_toNat_lt]
  omega

theorem tight_contains (h : b.isEmpty = false) :
    b.Tight {q | b.Contains q.1.toNat q.2.toNat} := by
  obtain ⟨hx, hy⟩ := isEmpty_eq_false_iff.1 h
  have first : (b.minX, b.minY) ∈ {q : UInt16 × UInt16 | b.Contains q.1.toNat q.2.toNat} :=
    ⟨Nat.le_refl _, hx, Nat.le_refl _, hy⟩
  have last : (b.maxX, b.maxY) ∈ {q : UInt16 × UInt16 | b.Contains q.1.toNat q.2.toNat} :=
    ⟨hx, Nat.le_refl _, hy, Nat.le_refl _⟩
  constructor
  · refine ⟨column_mem first, ?_⟩
    rintro _ ⟨q, hq, rfl⟩
    exact hq.1
  · refine ⟨column_mem last, ?_⟩
    rintro _ ⟨q, hq, rfl⟩
    exact hq.2.1
  · refine ⟨row_mem first, ?_⟩
    rintro _ ⟨q, hq, rfl⟩
    exact hq.2.2.1
  · refine ⟨row_mem last, ?_⟩
    rintro _ ⟨q, hq, rfl⟩
    exact hq.2.2.2

theorem within_of_short (h : b.isEmpty = false) (hx : b.maxX ≠ 0xFFFF) (hy : b.maxY ≠ 0xFFFF) :
    b.Within (0xFFFF : UInt16).toNat (0xFFFF : UInt16).toNat := by
  obtain ⟨hminX, hminY⟩ := isEmpty_eq_false_iff.1 h
  exact ⟨hminX, ne_last_iff16.1 hx, hminY, ne_last_iff16.1 hy⟩

theorem toRect_of_full (h : b.isEmpty = false) : b.toRect =
    if b.maxX = 0xFFFF ∨ b.maxY = 0xFFFF then .error .addition else .ok (some b.rect) := by
  have hnone : ¬ b.isEmpty = true := by simp [h]
  split_ifs with hlast
  · rw [toRect, if_neg hnone, Checked.next16, Checked.next16]
    by_cases hx : b.maxX = 0xFFFF
    · rw [if_pos hx]
      rfl
    · rw [if_neg hx, if_pos (hlast.resolve_left hx)]
      rfl
  · obtain ⟨hx, hy⟩ := not_or.1 hlast
    exact (within_of_short h hx hy).toRect_eq

theorem Tight.isEmpty (h : b.Tight points) : b.isEmpty = false :=
  isEmpty_eq_false_iff.2 ⟨h.left.2 h.right.1, h.top.2 h.bottom.1⟩

theorem eq_last_iff (side : UInt16 × UInt16 → UInt16) {greatest : UInt16}
    (h : IsGreatest ((fun q => (side q).toNat) '' points) greatest.toNat) :
    greatest = 0xFFFF ↔ ∃ q ∈ points, side q = 0xFFFF := by
  constructor
  · rintro rfl
    obtain ⟨q, hq, heq⟩ := h.1
    exact ⟨q, hq, UInt16.toNat_inj.1 heq⟩
  · rintro ⟨q, hq, hlast⟩
    have hle : (side q).toNat ≤ greatest.toNat := h.2 (Set.mem_image_of_mem _ hq)
    refine Decidable.byContradiction fun hne => ?_
    have hlt := ne_last_iff16.1 hne
    rw [hlast] at hle
    exact absurd hle (Nat.not_le.2 hlt)

theorem Tight.reaches_iff (h : b.Tight points) :
    b.maxX = 0xFFFF ∨ b.maxY = 0xFFFF ↔ ∃ q ∈ points, q.1 = 0xFFFF ∨ q.2 = 0xFFFF := by
  rw [eq_last_iff Prod.fst h.right, eq_last_iff Prod.snd h.bottom, ← exists_or]
  simp only [and_or_left]

theorem Bounds.toRect_eq_none_iff (h : b.Bounds points) : b.toRect = .ok none ↔ points = ∅ := by
  cases h with
  | empty box none =>
    rw [box]
    exact iff_of_true empty_toRect none
  | tight sides =>
    refine iff_of_false ?_ sides.nonempty.ne_empty
    rw [toRect_of_full sides.isEmpty]
    split_ifs <;> exact nofun

theorem Bounds.toRect_eq_error_iff (h : b.Bounds points) :
    b.toRect = .error .addition ↔ ∃ q ∈ points, q.1 = 0xFFFF ∨ q.2 = 0xFFFF := by
  cases h with
  | empty box none =>
    rw [box, none, empty_toRect]
    refine iff_of_false nofun ?_
    rintro ⟨q, hq, -⟩
    exact hq
  | tight sides =>
    rw [toRect_of_full sides.isEmpty, ← sides.reaches_iff]
    split_ifs with hlast
    · exact iff_of_true rfl hlast
    · exact iff_of_false nofun hlast

theorem Tight.toRect_smallest (h : b.Tight points)
    (hinside : ∀ q ∈ points, q.1 ≠ 0xFFFF ∧ q.2 ≠ 0xFFFF) :
    ∃ r, b.toRect = .ok (some r) ∧ r.Smallest points := by
  have hshort : ¬ (b.maxX = 0xFFFF ∨ b.maxY = 0xFFFF) := by
    rw [h.reaches_iff]
    rintro ⟨q, hq, hlast⟩
    exact hlast.elim (hinside q hq).1 (hinside q hq).2
  obtain ⟨hx, hy⟩ := not_or.1 hshort
  have hwithin := within_of_short h.isEmpty hx hy
  exact ⟨b.rect, hwithin.toRect_eq, (h.rect hwithin).smallest⟩

/-- The box that positions leave in the empty box depends on which ones they are, and not on their
order or number; it is the empty box without any, and has their least and greatest columns and rows
as its sides otherwise. Its exclusive form is missing without any, stops the program exactly if one of
them lies in the last column or row of all, and is the smallest rectangle around them otherwise. In a
box that is not empty they leave the smallest box around it and them. -/
theorem bounding_box (positions : List (UInt16 × UInt16)) :
    (∀ others : List (UInt16 × UInt16), (∀ q, q ∈ others ↔ q ∈ positions) →
      empty.insertAll others = empty.insertAll positions) ∧
    (empty.insertAll positions = empty ↔ positions = []) ∧
    (positions ≠ [] → (empty.insertAll positions).Tight {q | q ∈ positions}) ∧
    ((empty.insertAll positions).toRect = .ok none ↔ positions = []) ∧
    ((empty.insertAll positions).toRect = .error .addition ↔
      ∃ q ∈ positions, q.1 = 0xFFFF ∨ q.2 = 0xFFFF) ∧
    (positions ≠ [] → (∀ q ∈ positions, q.1 ≠ 0xFFFF ∧ q.2 ≠ 0xFFFF) →
      ∃ r, (empty.insertAll positions).toRect = .ok (some r) ∧ r.Smallest {q | q ∈ positions}) ∧
    ∀ b : DirtyBox, b.isEmpty = false → (b.insertAll positions).Smallest
      ({q | q ∈ positions} ∪ {q | b.Contains q.1.toNat q.2.toNat}) := by
  have hbounds := bounds_insertAll_empty positions
  refine ⟨?same, ?empty, tight_insertAll_empty, ?none, hbounds.toRect_eq_error_iff, ?inside, ?start⟩
  case same =>
    intro others hsame
    have hset : {q | q ∈ others} = {q | q ∈ positions} := Set.ext hsame
    exact (hset ▸ bounds_insertAll_empty others).unique hbounds
  case empty => rw [hbounds.eq_empty_iff, mem_eq_empty_iff]
  case none => rw [hbounds.toRect_eq_none_iff, mem_eq_empty_iff]
  case inside =>
    intro hsome hinside
    exact (tight_insertAll_empty hsome).toRect_smallest hinside
  case start =>
    intro b hfull
    have htight := tight_contains hfull
    have hgrown := (Bounds.tight htight).insertAll positions
    exact (hgrown.tight_of_nonempty htight.nonempty.inr).smallest

theorem bounding_box_three :
    empty.insertAll [(3, 5), (7, 2), (4, 4), (3, 5)] = ⟨3, 7, 2, 5⟩ ∧
      empty.insertAll [(4, 4), (3, 5), (7, 2)] = empty.insertAll [(3, 5), (7, 2), (4, 4), (3, 5)] ∧
      Tight ⟨3, 7, 2, 5⟩ {q | q ∈ [(3, 5), (7, 2), (4, 4), (3, 5)]} ∧
      Rect.Smallest ⟨3, 2, 8, 6⟩ {q | q ∈ [(3, 5), (7, 2), (4, 4), (3, 5)]} ∧
      Smallest ⟨0, 7, 2, 9⟩ ({q | q ∈ [(3, 5), (7, 2), (4, 4), (3, 5)]} ∪
        {q | Contains ⟨0, 1, 8, 9⟩ q.1.toNat q.2.toNat}) := by
  obtain ⟨hsame, -, htight, -, -, hrect, hstart⟩ :=
    bounding_box [(3, 5), (7, 2), (4, 4), (3, 5)]
  have hbox : empty.insertAll [(3, 5), (7, 2), (4, 4), (3, 5)] = ⟨3, 7, 2, 5⟩ := rfl
  rw [hbox] at htight hrect
  obtain ⟨r, hr, hsmallest⟩ := hrect (List.cons_ne_nil _ _) (by simp)
  cases hr
  exact ⟨hbox, hsame _ (by grind), htight (List.cons_ne_nil _ _), hsmallest,
    hstart ⟨0, 1, 8, 9⟩ rfl⟩

end DirtyBox
end PictureFrame
