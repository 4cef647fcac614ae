import PictureFrame.Files
import PictureFrame.Proofs.Framebuffer

set_option autoImplicit false

namespace PictureFrame

theorem foldl_counted {α : Type} {P : Nat → Bytes → Prop} {step : Bytes → α → Bytes} {size : Nat}
    (places : List α) (hstep : ∀ n done, ∀ a ∈ places, P n done → P (n + size) (step done a))
    {n : Nat} {done : Bytes} (h : P n done) :
    P (n + places.length * size) (places.foldl step done) := by
  induction places generalizing n done with
  | nil => simpa using h
  | cons a places ih =>
    have hnext := ih (fun n done b hb => hstep n done b (List.mem_cons_of_mem a hb))
      (hstep n done a List.mem_cons_self h)
    rwa [Nat.add_assoc, Nat.add_comm size, ← Nat.succ_mul] at hnext

namespace Image

def sample (image : Image) (width height x y : Nat) : Color :=
  image.color (x * image.width / width) (y * image.height / height)

variable {image : Image} {width height : Nat}

theorem scaled_induction {P : Nat → Bytes → Prop} (hwidth : image.width ≠ 0)
    (hheight : image.height ≠ 0) (start : P 0 #[])
    (pixel : ∀ n done, ∀ x < width, ∀ y < height, P n done →
      P (n + 1) (done ++ (image.sample width height x y).toBytes.toArray)) :
    P (width * height) (image.scaled width height) := by
  have hrow : ∀ n done, ∀ y ∈ List.range height, P n done → P (n + width)
      ((List.range width).foldl (fun done x =>
        done ++ (image.sample width height x y).toBytes.toArray) done) := by
    intro n done y hy h
    have hpixels := foldl_counted (List.range width)
      (fun n done x hx => pixel n done x (List.mem_range.1 hx) y (List.mem_range.1 hy)) h
    rwa [List.length_range, Nat.mul_one] at hpixels
  have hrows := foldl_counted (List.range height) hrow start
  rw [List.length_range, Nat.zero_add, Nat.mul_comm] at hrows
  rw [scaled, if_neg (not_or.2 ⟨hwidth, hheight⟩)]
  exact hrows

theorem scaled_size (image : Image) (width height : Nat) :
    (image.scaled width height).size = width * height * 4 := by
  by_cases hempty : image.width = 0 ∨ image.height = 0
  · rw [scaled, if_pos hempty, Array.size_replicate]
  · obtain ⟨hwidth, hheight⟩ := not_or.1 hempty
    refine scaled_induction (P := fun n bytes => bytes.size = n * 4) hwidth hheight rfl ?_
    intro n done x _ y _ h
    rw [Array.size_append, Vector.size_toArray, h]
    omega

end Image

def Color.SameShade (c c' : Color) : Prop :=
  c'.red = c.red ∧ c'.green = c.green ∧ c'.blue = c.blue

/-- So many pixels of one colour, each of any alpha. -/
structure Uniform (color : Color) (count : Nat) (bytes : Bytes) : Prop where
  size : bytes.size = count * 4
  pixels : ∀ i < count, color.SameShade (.ofData bytes (i * 4))

variable {color : Color} {count : Nat}

theorem uniform_empty (color : Color) : Uniform color 0 #[] :=
  ⟨rfl, fun i hi => absurd hi (Nat.not_lt_zero i)⟩

theorem Uniform.append {done : Bytes} (h : Uniform color count done) {c : Color}
    (hc : color.SameShade c) : Uniform color (count + 1) (done ++ c.toBytes.toArray) := by
  have hsize := h.size
  refine ⟨by rw [Array.size_append, hsize, Vector.size_toArray]; omega, ?_⟩
  intro i hi
  rcases Nat.lt_succ_iff_lt_or_eq.1 hi with hold | rfl
  · have hpixels := h.pixels i hold
    simp only [Color.SameShade, Color.ofData] at hpixels ⊢
    rwa [Array.getElem?_append_left (by omega), Array.getElem?_append_left (by omega),
      Array.getElem?_append_left (by omega)]
  · simp only [Color.SameShade, Color.ofData]
    rw [Array.getElem?_append_right (by omega), Array.getElem?_append_right (by omega),
      Array.getElem?_append_right (by omega), hsize]
    simpa [Color.toBytes, Color.SameShade] using hc

theorem Image.uniform_scaled {image : Image} (hwidth : image.width ≠ 0) (hheight : image.height ≠ 0)
    (h : ∀ x < image.width, ∀ y < image.height, color.SameShade (image.color x y))
    (width height : Nat) : Uniform color (width * height) (image.scaled width height) := by
  refine scaled_induction (P := Uniform color) hwidth hheight (uniform_empty color) ?_
  intro n done x hx y hy hdone
  refine hdone.append (h _ ?_ _ ?_)
  · rw [Nat.div_lt_iff_lt_mul (by omega), Nat.mul_comm]
    exact Nat.mul_lt_mul_of_pos_left hx (Nat.pos_of_ne_zero hwidth)
  · rw [Nat.div_lt_iff_lt_mul (by omega), Nat.mul_comm]
    exact Nat.mul_lt_mul_of_pos_left hy (Nat.pos_of_ne_zero hheight)

end PictureFrame
