import Mathlib.Tactic.SplitIfs
import PictureFrame.Proofs.Basic
import PictureFrame.Session

set_option autoImplicit false

namespace PictureFrame

def Color.ofData (data : Bytes) (start : Nat) : Color :=
  ⟨data[start]?.getD 0, data[start + 1]?.getD 0, data[start + 2]?.getD 0, data[start + 3]?.getD 0⟩

namespace Framebuffer

def place (fb : Framebuffer) (x y : Nat) : Nat := (y * fb.width.toNat + x) * 4

def color (fb : Framebuffer) (x y : Nat) : Color := .ofData fb.data (fb.place x y)

structure WellFormed (fb : Framebuffer) : Prop where
  data_size : fb.data.size = fb.width.toNat * fb.height.toNat * 4
  data_size_lt : fb.data.size < Checked.allocationLimit

variable {fb fb' : Framebuffer}

theorem WellFormed.place_lt (wf : fb.WellFormed) {x y : Nat} (hx : x < fb.width.toNat)
    (hy : y < fb.height.toNat) : fb.place x y + 3 < fb.data.size := by
  have hlt := rowMajor_lt hx hy
  rw [wf.data_size]
  unfold place
  omega

theorem WellFormed.place_lt_of_word (wf : fb.WellFormed) {x y : UInt32} (hx : x < fb.width)
    (hy : y < fb.height) : fb.place x.toNat y.toNat + 3 < fb.data.size :=
  wf.place_lt hx hy

theorem WellFormed.index_eq (wf : fb.WellFormed) {x y : UInt32} (hx : x < fb.width)
    (hy : y < fb.height) : fb.index x y = .ok (fb.place x.toNat y.toNat) := by
  have hlt := wf.place_lt_of_word hx hy
  have hlimit := wf.data_size_lt
  unfold place at hlt ⊢
  unfold Checked.allocationLimit at hlimit
  have hmul : y.toNat * fb.width.toNat < Checked.wordLimit := by
    unfold Checked.wordLimit
    omega
  have hadd : y.toNat * fb.width.toNat + x.toNat < Checked.wordLimit := by
    unfold Checked.wordLimit
    omega
  have hplace : (y.toNat * fb.width.toNat + x.toNat) * 4 < Checked.wordLimit := by
    unfold Checked.wordLimit
    omega
  simp only [index, Checked.mul, Checked.add, bind, Except.bind, if_pos hmul, if_pos hadd,
    if_pos hplace]

theorem colorAt_eq {start : Nat} (h : start + 3 < fb.data.size) :
    fb.colorAt start = .ok (.ofData fb.data start) := by
  have hget : ∀ k, k < 4 → fb.data[start + k]? = some (fb.data[start + k]?.getD 0) := by
    intro k hk
    rw [Array.getElem?_eq_getElem (by omega)]
    rfl
  rw [colorAt, ← Nat.add_zero start, hget 0 (by omega), Nat.add_zero, hget 1 (by omega),
    hget 2 (by omega), hget 3 (by omega)]
  rfl

theorem WellFormed.pixel_eq (wf : fb.WellFormed) (x y : UInt32) :
    fb.pixel x y =
      .ok (if x < fb.width ∧ y < fb.height then some (fb.color x.toNat y.toNat) else none) := by
  unfold pixel
  split_ifs with h
  · rw [wf.index_eq h.1 h.2]
    change (fb.colorAt (fb.place x.toNat y.toNat) >>= _) = _
    rw [colorAt_eq (wf.place_lt_of_word h.1 h.2)]
    rfl
  · rfl

theorem WellFormed.pixel_eq_some (wf : fb.WellFormed) {x y : UInt32} {color : Color} :
    fb.pixel x y = .ok (some color) ↔
      (x < fb.width ∧ y < fb.height) ∧ color = fb.color x.toNat y.toNat := by
  rw [wf.pixel_eq, Except.ok.injEq]
  split_ifs with h
  · rw [Option.some.injEq, and_iff_right h, eq_comm]
  · exact iff_of_false nofun fun hin => h hin.1

theorem byteSize_eq (width height : UInt32) : byteSize width height =
    if Checked.wordLimit ≤ width.toNat * height.toNat * 4 then .error .multiplication
    else if Checked.allocationLimit ≤ width.toNat * height.toNat * 4 then .error .capacity
    else .ok (width.toNat * height.toNat * 4) := by
  -- The product of two 32-bit words is a 64-bit word, so only the last product can overflow.
  have hproduct : width.toNat * height.toNat < Checked.wordLimit := by
    calc width.toNat * height.toNat < UInt32.size * UInt32.size :=
          Nat.mul_lt_mul'' width.toNat_lt_size height.toNat_lt_size
      _ = Checked.wordLimit := rfl
  have hbytes : byteSize width height =
      Checked.mul (width.toNat * height.toNat) 4 >>= Checked.allocation := by
    rw [byteSize, Checked.mul, if_pos hproduct]
    rfl
  rw [hbytes, Checked.mul]
  split_ifs with hfits hlarge hover hlarge hover
  · omega
  · exact if_neg (by omega)
  · exact if_pos (by omega)
  · rfl
  · omega
  · omega

theorem new_eq (width height : UInt32) : new width height =
    if Checked.wordLimit ≤ width.toNat * height.toNat * 4 then .error .multiplication
    else if Checked.allocationLimit ≤ width.toNat * height.toNat * 4 then .error .capacity
    else .ok ⟨width, height, Array.replicate (width.toNat * height.toNat * 4) 0⟩ := by
  rw [new, byteSize_eq]
  split_ifs <;> rfl

theorem new_eq_ok {width height : UInt32} (h : new width height = .ok fb) :
    fb.WellFormed ∧ fb.width = width ∧ fb.height = height ∧ ∀ x y, fb.color x y = .black := by
  rw [new_eq] at h
  split_ifs at h with hword hlimit
  cases h
  refine ⟨⟨Array.size_replicate, ?_⟩, rfl, rfl, ?_⟩
  · rw [Array.size_replicate]
    exact Nat.lt_of_not_le hlimit
  · intro x y
    simp only [color, Color.ofData, Array.getElem?_replicate]
    congr 1 <;> split_ifs <;> rfl

theorem new_ok {width height : UInt32}
    (h : width.toNat * height.toNat * 4 < Checked.allocationLimit) :
    ∃ fb, new width height = .ok fb := by
  have hlimit : Checked.allocationLimit < Checked.wordLimit := by decide
  rw [new_eq, if_neg (by omega), if_neg (by omega)]
  exact ⟨_, rfl⟩

theorem overwrite_size (data : Bytes) (start : Nat) (bytes : List UInt8) :
    (overwrite data start bytes).size = data.size := by
  induction bytes generalizing data start with
  | nil => rfl
  | cons b bytes ih => rw [overwrite, ih, Array.size_setIfInBounds]

theorem overwrite_getElem? (data : Bytes) (start : Nat) (bytes : List UInt8) (i : Nat)
    (h : start + bytes.length ≤ data.size) : (overwrite data start bytes)[i]? =
      if start ≤ i ∧ i < start + bytes.length then bytes[i - start]? else data[i]? := by
  induction bytes generalizing data start with
  | nil =>
    rw [overwrite, if_neg (by rw [List.length_nil]; omega)]
  | cons b bytes ih =>
    rw [List.length_cons] at h
    rw [overwrite, ih _ _ (by rw [Array.size_setIfInBounds]; omega), Array.getElem?_setIfInBounds,
      List.length_cons]
    by_cases hstart : start = i
    · subst hstart
      rw [if_neg (by omega), if_pos rfl, if_pos (by omega), if_pos (by omega), Nat.sub_self]
      rfl
    · rw [if_neg hstart]
      by_cases hin : start + 1 ≤ i ∧ i < start + 1 + bytes.length
      · rw [if_pos hin, if_pos (by omega), show i - start = (i - (start + 1)) + 1 by omega,
          List.getElem?_cons_succ]
      · rw [if_neg hin, if_neg (by omega)]

structure Written (fb fb' : Framebuffer) (start : Nat) (bytes : List UInt8) : Prop where
  size : fb'.width = fb.width ∧ fb'.height = fb.height
  data_size : fb'.data.size = fb.data.size
  getElem? : ∀ i, fb'.data[i]? =
    if start ≤ i ∧ i < start + bytes.length then bytes[i - start]? else fb.data[i]?

theorem write_eq_ok {start : Nat} {bytes : List UInt8} (h : fb.write start bytes = .ok fb') :
    Written fb fb' start bytes := by
  unfold write at h
  split_ifs at h with hfits
  cases h
  exact ⟨⟨rfl, rfl⟩, overwrite_size _ _ _, fun i => overwrite_getElem? _ _ _ i hfits⟩

theorem Written.wellFormed {start : Nat} {bytes : List UInt8} (h : Written fb fb' start bytes)
    (wf : fb.WellFormed) : fb'.WellFormed := by
  refine ⟨?_, ?_⟩
  · rw [h.data_size, h.size.1, h.size.2, wf.data_size]
  · rw [h.data_size]
    exact wf.data_size_lt

/-- The pixel in column `x` of row `y` has a byte among `count` bytes from `start`. -/
def Overlaps (fb : Framebuffer) (start count x y : Nat) : Prop :=
  ∃ i, start ≤ i ∧ i < start + count ∧ fb.place x y ≤ i ∧ i < fb.place x y + 4

theorem Written.color_eq {start : Nat} {bytes : List UInt8} (h : Written fb fb' start bytes)
    {x y : Nat} (hxy : ¬ fb.Overlaps start bytes.length x y) : fb'.color x y = fb.color x y := by
  have hplace : fb'.place x y = fb.place x y := by rw [place, place, h.size.1]
  have hget : ∀ k, k < 4 → fb'.data[fb.place x y + k]? = fb.data[fb.place x y + k]? := by
    intro k hk
    rw [h.getElem?, if_neg]
    intro hin
    exact hxy ⟨fb.place x y + k, hin.1, hin.2, by omega, by omega⟩
  have hzero := hget 0 (by omega)
  rw [Nat.add_zero] at hzero
  rw [color, color, hplace, Color.ofData, Color.ofData, hzero, hget 1 (by omega),
    hget 2 (by omega), hget 3 (by omega)]

theorem WellFormed.setPixel_eq (wf : fb.WellFormed) (x y : UInt32) (color : Color) :
    fb.setPixel x y color =
      if x < fb.width ∧ y < fb.height then fb.write (fb.place x.toNat y.toNat) color.toBytes.toList
      else .ok fb := by
  unfold setPixel
  split_ifs with h
  · rw [wf.index_eq h.1 h.2]
    rfl
  · rfl

theorem WellFormed.setPixel_ok (wf : fb.WellFormed) (x y : UInt32) (color : Color) :
    ∃ fb', fb.setPixel x y color = .ok fb' := by
  rw [wf.setPixel_eq]
  split_ifs with h
  · have hlt := wf.place_lt_of_word h.1 h.2
    have hfits : fb.place x.toNat y.toNat + color.toBytes.toList.length ≤ fb.data.size := by
      rw [Vector.length_toList]
      omega
    exact ⟨_, if_pos hfits⟩
  · exact ⟨fb, rfl⟩

end Framebuffer
end PictureFrame
