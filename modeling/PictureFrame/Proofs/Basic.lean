import Mathlib.Algebra.Ring.Nat
import PictureFrame.Basic

set_option autoImplicit false

namespace PictureFrame.Checked

theorem bind_eq_ok {α β : Type} {a : Checked α} {f : α → Checked β} {b : β} :
    a >>= f = .ok b ↔ ∃ v, a = .ok v ∧ f v = .ok b := by
  cases a with
  | error cause =>
    constructor
    · intro h
      cases h
    · intro h
      obtain ⟨v, hv, -⟩ := h
      cases hv
  | ok v =>
    constructor
    · exact fun h => ⟨v, rfl, h⟩
    · intro h
      obtain ⟨w, hw, h⟩ := h
      cases hw
      exact h

theorem foldlM_eq_ok {α β : Type} {f : β → α → Checked β} {g : β → α → β} (P : β → Prop)
    (l : List α) (b : β) (hb : P b) (step : ∀ b, P b → ∀ a ∈ l, f b a = .ok (g b a) ∧ P (g b a)) :
    l.foldlM f b = .ok (l.foldl g b) ∧ P (l.foldl g b) := by
  induction l generalizing b with
  | nil => exact ⟨rfl, hb⟩
  | cons a l ih =>
    obtain ⟨hf, hP⟩ := step b hb a List.mem_cons_self
    rw [List.foldlM_cons, hf, List.foldl_cons]
    exact ih (g b a) hP fun b hb a ha => step b hb a (List.mem_cons_of_mem _ ha)

/-- Two computations that stop for one cause or yield values in a relation. -/
inductive Related {α β : Type} (R : α → β → Prop) : Checked α → Checked β → Prop
  | error (cause : Abort) : Related R (.error cause) (.error cause)
  | ok {a : α} {b : β} (related : R a b) : Related R (.ok a) (.ok b)

theorem Related.bind {α β γ δ : Type} {R : α → β → Prop} {S : γ → δ → Prop} {a : Checked α}
    {b : Checked β} {f : α → Checked γ} {g : β → Checked δ} (h : Related R a b)
    (hnext : ∀ v w, R v w → Related S (f v) (g w)) : Related S (a >>= f) (b >>= g) := by
  cases h with
  | error cause => exact .error cause
  | ok related => exact hnext _ _ related

theorem Related.refl {α : Type} {R : α → α → Prop} (h : ∀ v, R v v) (a : Checked α) :
    Related R a a := by
  cases a with
  | error cause => exact .error cause
  | ok v => exact .ok (h v)

end PictureFrame.Checked

namespace PictureFrame

theorem toNat_min16 (a b : UInt16) : (min a b).toNat = min a.toNat b.toNat := by
  change (if a ≤ b then a else b).toNat = _
  rw [Nat.min_def, apply_ite UInt16.toNat]
  rfl

theorem toNat_max16 (a b : UInt16) : (max a b).toNat = max a.toNat b.toNat := by
  change (if a ≤ b then b else a).toNat = _
  rw [Nat.max_def, apply_ite UInt16.toNat]
  rfl

theorem one_le_iff16 {v : UInt16} : 1 ≤ v ↔ v ≠ 0 := by
  rw [UInt16.le_iff_toNat_le, ne_eq, ← UInt16.toNat_inj]
  exact Nat.pos_iff_ne_zero

theorem ne_last_iff16 {v : UInt16} : v ≠ 0xFFFF ↔ v.toNat < 65535 := by
  have hlt := v.toNat_lt
  rw [ne_eq, ← UInt16.toNat_inj]
  change ¬ v.toNat = 65535 ↔ _
  omega

theorem toNat_min32 (a b : UInt32) : (min a b).toNat = min a.toNat b.toNat := by
  change (if a ≤ b then a else b).toNat = _
  rw [Nat.min_def, apply_ite UInt32.toNat]
  rfl

theorem exists_word32 {n : Nat} {limit : UInt32} (h : n < limit.toNat) :
    ∃ w : UInt32, w.toNat = n :=
  ⟨.ofNat n, UInt32.toNat_ofNat_of_lt' (Nat.lt_trans h limit.toNat_lt)⟩

theorem toNat_low8 (v : UInt16) : (low8 v).toNat = v.toNat % 256 := by
  simp [low8]

theorem toNat_high8 (v : UInt16) : (high8 v).toNat = v.toNat / 256 := by
  have hlt := v.toNat_lt
  simp [high8, Nat.shiftRight_eq_div_pow]
  omega

theorem toNat_word16 (low high : UInt8) :
    (word16 low high).toNat = low.toNat + 256 * high.toNat := by
  have hlow := low.toNat_lt
  have hhigh := high.toNat_lt
  have hshift : high.toNat <<< 8 % 65536 = 2 ^ 8 * high.toNat := by
    rw [Nat.shiftLeft_eq, Nat.mod_eq_of_lt (by omega), Nat.mul_comm]
  simp only [word16, UInt16.toNat_or, UInt8.toNat_toUInt16, UInt16.toNat_shiftLeft]
  change low.toNat ||| high.toNat <<< 8 % 65536 = _
  rw [hshift, Nat.or_comm, ← Nat.two_pow_add_eq_or_of_lt hlow, Nat.add_comm]

theorem eq_word16 {v : UInt16} {low high : UInt8} (h : v.toNat = low.toNat + 256 * high.toNat) :
    v = word16 low high :=
  UInt16.toNat_inj.1 (h.trans (toNat_word16 low high).symm)

theorem word16_low8_high8 (v : UInt16) : word16 (low8 v) (high8 v) = v := by
  apply UInt16.toNat_inj.1
  rw [toNat_word16, toNat_low8, toNat_high8, Nat.mod_add_div]

theorem toNat_byte32 (v : UInt32) {i : UInt32} (h : i.toNat < 4) :
    (byte32 v i).toNat = v.toNat / 2 ^ (8 * i.toNat) % 256 := by
  have hshift : (8 * i).toNat % 32 = 8 * i.toNat := by
    rw [UInt32.toNat_mul]
    change 8 * i.toNat % 2 ^ 32 % 32 = _
    omega
  rw [byte32, UInt32.toNat_toUInt8, UInt32.toNat_shiftRight, hshift, Nat.shiftRight_eq_div_pow]

theorem toNat_or_shiftLeft {low k : UInt32} (b : UInt8) (hk : k.toNat ≤ 24)
    (hlow : low.toNat < 2 ^ k.toNat) :
    (low ||| b.toUInt32 <<< k).toNat = low.toNat + 2 ^ k.toNat * b.toNat := by
  have hbound : b.toNat * 2 ^ k.toNat < 2 ^ 32 := by
    calc b.toNat * 2 ^ k.toNat < 2 ^ 8 * 2 ^ k.toNat :=
          Nat.mul_lt_mul_of_pos_right b.toNat_lt (Nat.two_pow_pos k.toNat)
      _ = 2 ^ (8 + k.toNat) := (Nat.pow_add 2 8 k.toNat).symm
      _ ≤ 2 ^ 32 := Nat.pow_le_pow_right (by decide) (by omega)
  have hmod : k.toNat % 32 = k.toNat := Nat.mod_eq_of_lt (by omega)
  rw [UInt32.toNat_or, UInt32.toNat_shiftLeft, UInt8.toNat_toUInt32, hmod, Nat.shiftLeft_eq,
    Nat.mod_eq_of_lt hbound, Nat.mul_comm, Nat.or_comm, ← Nat.two_pow_add_eq_or_of_lt hlow,
    Nat.add_comm]

theorem toNat_word32 (b0 b1 b2 b3 : UInt8) : (word32 b0 b1 b2 b3).toNat =
    b0.toNat + 2 ^ 8 * b1.toNat + 2 ^ 16 * b2.toNat + 2 ^ 24 * b3.toNat := by
  have h0 := b0.toNat_lt
  have h1 := b1.toNat_lt
  have h2 := b2.toNat_lt
  have htwo : (b0.toUInt32 ||| b1.toUInt32 <<< 8).toNat = b0.toNat + 2 ^ 8 * b1.toNat :=
    toNat_or_shiftLeft b1 (by decide) h0
  have hthree : (b0.toUInt32 ||| b1.toUInt32 <<< 8 ||| b2.toUInt32 <<< 16).toNat =
      b0.toNat + 2 ^ 8 * b1.toNat + 2 ^ 16 * b2.toNat := by
    rw [← htwo]
    refine toNat_or_shiftLeft b2 (by decide) ?_
    change _ < 2 ^ 16
    omega
  rw [← hthree]
  refine toNat_or_shiftLeft b3 (by decide) ?_
  change _ < 2 ^ 24
  omega

theorem word32_byte32 (v : UInt32) :
    word32 (byte32 v 0) (byte32 v 1) (byte32 v 2) (byte32 v 3) = v := by
  have hv := v.toNat_lt
  apply UInt32.toNat_inj.1
  rw [toNat_word32, toNat_byte32 v (by decide), toNat_byte32 v (by decide),
    toNat_byte32 v (by decide), toNat_byte32 v (by decide)]
  simp only [UInt32.reduceToNat]
  omega

def littleEndian : List UInt8 → Nat
  | [] => 0
  | b :: rest => b.toNat + 256 * littleEndian rest

theorem littleEndian_inj {first second : List UInt8} (hlength : first.length = second.length)
    (h : littleEndian first = littleEndian second) : first = second := by
  induction first generalizing second with
  | nil => exact (List.length_eq_zero_iff.1 hlength.symm).symm
  | cons b first ih =>
    obtain ⟨c, second, rfl⟩ := List.exists_cons_of_length_eq_add_one hlength.symm
    have hb := b.toNat_lt
    have hc := c.toNat_lt
    simp only [littleEndian] at h
    have hbyte : b = c := UInt8.toNat_inj.1 (by omega)
    have hrest : littleEndian first = littleEndian second := by omega
    rw [hbyte, ih (Nat.succ.inj hlength) hrest]

theorem littleEndian_bytes16 (v : UInt16) : littleEndian [low8 v, high8 v] = v.toNat := by
  simp only [littleEndian]
  rw [Nat.mul_zero, Nat.add_zero, ← toNat_word16, word16_low8_high8]

theorem littleEndian_bytes32 (v : UInt32) :
    littleEndian [byte32 v 0, byte32 v 1, byte32 v 2, byte32 v 3] = v.toNat := by
  have hword := congrArg UInt32.toNat (word32_byte32 v)
  rw [toNat_word32] at hword
  simp only [littleEndian]
  omega

theorem toNat_sub_one16 (v : UInt16) : (v - 1).toNat = (v.toNat + 65535) % 65536 := by
  rw [UInt16.toNat_sub]
  change (65535 + v.toNat) % 65536 = _
  rw [Nat.add_comm]

theorem rowMajor_lt {width height x y : Nat} (hx : x < width) (hy : y < height) :
    y * width + x < width * height := by
  have hrow : (y + 1) * width ≤ height * width := Nat.mul_le_mul_right width hy
  rw [Nat.succ_mul, Nat.mul_comm height width] at hrow
  omega

theorem rowMajor_inj {width x y u v : Nat} (hx : x < width) (hu : u < width) :
    y * width + x = v * width + u ↔ x = u ∧ y = v := by
  constructor
  · intro h
    have hmod := congrArg (· % width) h
    have hdiv := congrArg (· / width) h
    have hpos : 0 < width := by omega
    simp only [Nat.mul_add_mod_self_right, Nat.mod_eq_of_lt hx, Nat.mod_eq_of_lt hu] at hmod
    simp only [Nat.mul_comm _ width, Nat.mul_add_div hpos, Nat.div_eq_of_lt hx,
      Nat.div_eq_of_lt hu, Nat.add_zero] at hdiv
    exact ⟨hmod, hdiv⟩
  · intro h
    rw [h.1, h.2]

/-- The packed pixel whose two bytes start at `start`; bytes past the end count as zero. -/
def Packed.ofBytes (bytes : Bytes) (start : Nat) : Packed :=
  ⟨bytes[start]?.getD 0, bytes[start + 1]?.getD 0⟩

theorem Packed.ofBytes_eq_iff {bytes : Bytes} {i : Nat} {p : Packed} (h : i + 1 < bytes.size) :
    ofBytes bytes i = p ↔ bytes[i]? = some p.high ∧ bytes[i + 1]? = some p.low := by
  rw [ofBytes, Array.getElem?_eq_getElem (Nat.lt_of_succ_lt h), Array.getElem?_eq_getElem h,
    Option.some.injEq, Option.some.injEq]
  cases p
  exact Iff.of_eq (mk.injEq ..)

def Rect.pixelIn (r : Rect) (bytes : Bytes) (x y : Nat) : Packed :=
  .ofBytes bytes (((y - r.top.toNat) * r.width + (x - r.left.toNat)) * 2)

end PictureFrame
