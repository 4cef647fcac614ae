import Mathlib.Tactic.IntervalCases
import PictureFrame.Proofs.Framebuffer

set_option autoImplicit false

namespace PictureFrame

theorem Color.toBytes_ofData {data : Bytes} {start : Nat} (h : start + 4 ≤ data.size) :
    (ofData data start).toBytes.toArray = data.extract start (start + 4) := by
  have hget : ∀ k (hk : k < data.size), data[k] = data[k]?.getD 0 := by
    intro k hk
    rw [Array.getElem?_eq_getElem hk]
    rfl
  have hsize : (data.extract start (start + 4)).size = 4 := by
    rw [Array.size_extract]
    omega
  refine Array.ext (by rw [hsize, Vector.size_toArray]) ?_
  intro k hk hk'
  rw [hsize] at hk'
  rw [Array.getElem_extract, hget]
  interval_cases k <;> rfl

namespace Framebuffer

theorem new_overflows_iff (width height : UInt32) :
    (new width height = .error .multiplication ↔ 2 ^ 64 ≤ width.toNat * height.toNat * 4) ∧
    (new width height = .error .capacity ↔
      2 ^ 63 ≤ width.toNat * height.toNat * 4 ∧ width.toNat * height.toNat * 4 < 2 ^ 64) := by
  have hword : Checked.wordLimit = 2 ^ 64 := rfl
  have hhalf : Checked.allocationLimit = 2 ^ 63 := rfl
  rw [new_eq, hword, hhalf]
  split_ifs with hover hlarge
  · exact ⟨iff_of_true rfl hover, iff_of_false nofun (by omega)⟩
  · exact ⟨iff_of_false nofun hover, iff_of_true rfl (by omega)⟩
  · exact ⟨iff_of_false nofun hover, iff_of_false nofun (by omega)⟩

variable {fb fb' : Framebuffer}

theorem Written.ofData {start : Nat} {color : Color}
    (h : Written fb fb' start color.toBytes.toList) : Color.ofData fb'.data start = color := by
  have hget : ∀ k, k < 4 → fb'.data[start + k]? = color.toBytes.toList[k]? := by
    intro k hk
    rw [h.getElem?, if_pos ⟨Nat.le_add_right _ _, by rw [Vector.length_toList]; omega⟩,
      Nat.add_sub_cancel_left]
  have hzero := hget 0 (by omega)
  rw [Nat.add_zero] at hzero
  rw [Color.ofData, hzero, hget 1 (by omega), hget 2 (by omega), hget 3 (by omega)]
  rfl

theorem not_overlaps {x y u v : Nat} (hx : x < fb.width.toNat) (hu : u < fb.width.toNat)
    (hne : (u, v) ≠ (x, y)) : ¬ fb.Overlaps (fb.place x y) 4 u v := by
  intro ⟨i, hfirst, hlast, hfirst', hlast'⟩
  unfold place at hfirst hlast hfirst' hlast'
  have hsame : y * fb.width.toNat + x = v * fb.width.toNat + u := by omega
  obtain ⟨rfl, rfl⟩ := (rowMajor_inj hx hu).1 hsame
  exact hne rfl

theorem WellFormed.setPixel_inside (wf : fb.WellFormed) {x y : UInt32} (hx : x < fb.width)
    (hy : y < fb.height) (color : Color) :
    ∃ fb', fb.setPixel x y color = .ok fb' ∧ fb'.pixel x y = .ok (some color) ∧
      ∀ u v, (u, v) ≠ (x, y) → fb'.pixel u v = fb.pixel u v := by
  obtain ⟨fb', hset⟩ := wf.setPixel_ok x y color
  have hwrite := hset
  rw [wf.setPixel_eq, if_pos ⟨hx, hy⟩] at hwrite
  have hwritten := write_eq_ok hwrite
  have wf' := hwritten.wellFormed wf
  obtain ⟨hwidth, hheight⟩ := hwritten.size
  have hplace : fb'.place x.toNat y.toNat = fb.place x.toNat y.toNat := by rw [place, place, hwidth]
  refine ⟨fb', hset, ?_, ?_⟩
  · rw [wf'.pixel_eq_some, hwidth, hheight, Framebuffer.color, hplace, hwritten.ofData]
    exact ⟨⟨hx, hy⟩, rfl⟩
  · intro u v hne
    rw [wf'.pixel_eq, wf.pixel_eq, hwidth, hheight]
    split_ifs with hin
    · have hne' : (u.toNat, v.toNat) ≠ (x.toNat, y.toNat) := by
        intro h
        rw [Prod.mk.injEq, UInt32.toNat_inj, UInt32.toNat_inj] at h
        exact hne (Prod.ext h.1 h.2)
      have hapart : ¬ fb.Overlaps _ color.toBytes.toList.length u.toNat v.toNat :=
        not_overlaps hx hin.1 hne'
      rw [hwritten.color_eq hapart]
    · rfl

inductive Edit
  | setPixel (x y : UInt32) (color : Color)
  | write (start : Nat) (bytes : List UInt8)
  | replace (bytes : Bytes)
  | fill (color : Color)

def Edit.Fits (size : Nat) : Edit → Prop
  | .write start bytes => start + bytes.length ≤ size
  | .replace bytes => bytes.size = size
  | .setPixel _ _ _ | .fill _ => True

def apply (fb : Framebuffer) : Edit → Checked Framebuffer
  | .setPixel x y color => fb.setPixel x y color
  | .write start bytes => fb.write start bytes
  | .replace bytes => fb.replace bytes
  | .fill color => .ok (fb.fill color)

def edited (fb : Framebuffer) : List Edit → Checked Framebuffer
  | [] => .ok fb
  | edit :: rest => do (← fb.apply edit).edited rest

structure Allocated (fb : Framebuffer) (width height : UInt32) : Prop extends fb.WellFormed where
  width_eq : fb.width = width
  height_eq : fb.height = height

variable {width height : UInt32}

theorem Written.allocated {start : Nat} {bytes : List UInt8} (h : Written fb fb' start bytes)
    (ha : fb.Allocated width height) : fb'.Allocated width height :=
  ⟨h.wellFormed ha.toWellFormed, h.size.1.trans ha.width_eq, h.size.2.trans ha.height_eq⟩

theorem Allocated.of_data (ha : fb.Allocated width height) {data : Bytes}
    (h : data.size = fb.data.size) : Allocated { fb with data } width height :=
  ⟨⟨h.trans ha.data_size, h.trans_lt ha.data_size_lt⟩, ha.width_eq, ha.height_eq⟩

theorem Allocated.size_eq (ha : fb.Allocated width height) :
    fb.data.size = width.toNat * height.toNat * 4 := by
  rw [ha.data_size, ha.width_eq, ha.height_eq]

theorem Allocated.apply_ok (ha : fb.Allocated width height) {edit : Edit}
    (fits : edit.Fits fb.data.size) :
    ∃ fb', fb.apply edit = .ok fb' ∧ fb'.Allocated width height := by
  cases edit with
  | setPixel x y color =>
    obtain ⟨fb', hset⟩ := ha.setPixel_ok x y color
    refine ⟨fb', hset, ?_⟩
    rw [ha.setPixel_eq] at hset
    split_ifs at hset with hin
    · exact (write_eq_ok hset).allocated ha
    · cases hset
      exact ha
  | write start bytes => exact ⟨_, if_pos fits, ha.of_data (overwrite_size _ _ _)⟩
  | replace bytes => exact ⟨_, if_pos fits, ha.of_data fits⟩
  | fill color => exact ⟨_, rfl, ha.of_data Array.size_mapIdx⟩

theorem apply_error {edit : Edit} (h : ¬ edit.Fits fb.data.size) :
    ∃ cause, fb.apply edit = .error cause := by
  cases edit with
  | write start bytes => exact ⟨_, if_neg h⟩
  | replace bytes => exact ⟨_, if_neg h⟩
  | setPixel x y color => exact absurd trivial h
  | fill color => exact absurd trivial h

/-- Edits stop only at a raw write that does not fit, and nothing else changes the size. -/
theorem Allocated.edited (ha : fb.Allocated width height) (edits : List Edit) :
    ((∃ fb', fb.edited edits = .ok fb') ↔
      ∀ edit ∈ edits, edit.Fits (width.toNat * height.toNat * 4)) ∧
    ∀ fb', fb.edited edits = .ok fb' → fb'.Allocated width height := by
  induction edits generalizing fb with
  | nil =>
    refine ⟨iff_of_true ⟨fb, rfl⟩ (fun edit hin => nomatch hin), ?_⟩
    intro fb' h
    cases h
    exact ha
  | cons edit rest ih =>
    rw [List.forall_mem_cons, ← ha.size_eq]
    by_cases hfits : edit.Fits fb.data.size
    · obtain ⟨fb₁, happly, ha₁⟩ := ha.apply_ok hfits
      have hrun : fb.edited (edit :: rest) = fb₁.edited rest := by
        rw [Framebuffer.edited, happly]
        rfl
      rw [hrun, and_iff_right hfits, ha.size_eq]
      exact ih ha₁
    · obtain ⟨cause, happly⟩ := apply_error hfits
      have hrun : fb.edited (edit :: rest) = .error cause := by
        rw [Framebuffer.edited, happly]
        rfl
      rw [hrun]
      exact ⟨iff_of_false nofun fun h => hfits h.1, nofun⟩

/-- The framebuffer is an array of colours with `width` columns and `height` rows. -/
structure IsGrid (fb : Framebuffer) (width height : UInt32) : Prop where
  data_size : fb.data.size = width.toNat * height.toNat * 4
  index : ∀ x y, x < width → y < height →
    fb.index x y = .ok (4 * (y.toNat * width.toNat + x.toNat)) ∧
      4 * (y.toNat * width.toNat + x.toNat) + 4 ≤ fb.data.size
  pixel : ∀ x y, ∃ found, fb.pixel x y = .ok found ∧ (found.isSome ↔ x < width ∧ y < height) ∧
    ∀ color, found = some color → color.toBytes.toArray =
      fb.data.extract (4 * (y.toNat * width.toNat + x.toNat))
        (4 * (y.toNat * width.toNat + x.toNat) + 4)
  setPixel : ∀ x y color, ∃ fb', fb.setPixel x y color = .ok fb' ∧
    (x < width ∧ y < height → fb'.pixel x y = .ok (some color)) ∧
    (¬ (x < width ∧ y < height) → fb' = fb) ∧
    ∀ u v, (u, v) ≠ (x, y) → fb'.pixel u v = fb.pixel u v

theorem WellFormed.isGrid (wf : fb.WellFormed) : fb.IsGrid fb.width fb.height where
  data_size := wf.data_size
  index x y hx hy := by
    have hlt := wf.place_lt_of_word hx hy
    rw [wf.index_eq hx hy]
    unfold place at hlt ⊢
    exact ⟨congrArg _ (Nat.mul_comm _ _), by omega⟩
  pixel x y := by
    refine ⟨_, wf.pixel_eq x y, ?_⟩
    split_ifs with hin
    · refine ⟨iff_of_true rfl hin, ?_⟩
      intro color hcolor
      cases hcolor
      have hlt := wf.place_lt_of_word hin.1 hin.2
      rw [Framebuffer.color, Color.toBytes_ofData (by omega), place, Nat.mul_comm _ 4]
    · refine ⟨iff_of_false Bool.false_ne_true hin, ?_⟩
      intro color hcolor
      cases hcolor
  setPixel x y color := by
    by_cases hin : x < fb.width ∧ y < fb.height
    · obtain ⟨fb', hset, hread, hothers⟩ := wf.setPixel_inside hin.1 hin.2 color
      exact ⟨fb', hset, fun _ => hread, absurd hin, hothers⟩
    · exact ⟨fb, if_neg hin, fun h => absurd h hin, fun _ => rfl, fun _ _ _ => rfl⟩

theorem Allocated.isGrid (ha : fb.Allocated width height) : fb.IsGrid width height := by
  have hgrid := ha.toWellFormed.isGrid
  rwa [ha.width_eq, ha.height_eq] at hgrid

/-- Allocation stops exactly where the size leaves its word or the memory. The framebuffer it gives
is an array after any edits, and these stop only at a raw write that does not fit. -/
theorem new_grid (width height : UInt32) :
    (new width height = .error .multiplication ↔ 2 ^ 64 ≤ width.toNat * height.toNat * 4) ∧
    (new width height = .error .capacity ↔
      2 ^ 63 ≤ width.toNat * height.toNat * 4 ∧ width.toNat * height.toNat * 4 < 2 ^ 64) ∧
    (width.toNat * height.toNat * 4 < 2 ^ 63 → ∃ fb, new width height = .ok fb ∧
      ∀ edits, ((∃ fb', fb.edited edits = .ok fb') ↔
          ∀ edit ∈ edits, edit.Fits (width.toNat * height.toNat * 4)) ∧
        ∀ fb', fb.edited edits = .ok fb' → fb'.IsGrid width height) := by
  obtain ⟨hmultiplication, hcapacity⟩ := new_overflows_iff width height
  refine ⟨hmultiplication, hcapacity, ?_⟩
  intro hsize
  have hsome : ∃ fb, new width height = .ok fb := new_ok hsize
  obtain ⟨fb, hnew⟩ := hsome
  obtain ⟨wf, hwidth, hheight, -⟩ := new_eq_ok hnew
  refine ⟨fb, hnew, ?_⟩
  intro edits
  obtain ⟨hstops, hallocated⟩ := Allocated.edited ⟨wf, hwidth, hheight⟩ edits
  exact ⟨hstops, fun fb' h => (hallocated fb' h).isGrid⟩

theorem new_grid_two_by_one : ∃ fb fb', new 2 1 = .ok fb ∧
    fb.edited [.setPixel 1 0 (.solid 0xFF 0 0), .setPixel 2 0 .black, .write 2 [7, 8, 9]] =
      .ok fb' ∧ fb'.IsGrid 2 1 := by
  obtain ⟨fb, hnew, hedits⟩ := (new_grid 2 1).2.2 (by decide)
  obtain ⟨hstops, hgrid⟩ := hedits
    [.setPixel 1 0 (.solid 0xFF 0 0), .setPixel 2 0 .black, .write 2 [7, 8, 9]]
  obtain ⟨fb', hedited⟩ := hstops.2 (by simp [Edit.Fits])
  exact ⟨fb, fb', hnew, hedited, hgrid fb' hedited⟩

end Framebuffer
end PictureFrame
