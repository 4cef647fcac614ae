import Mathlib.Data.Finset.Prod
import Mathlib.Order.Interval.Finset.Nat
import PictureFrame.Proofs.Envelope
import PictureFrame.Proofs.Frame

set_option autoImplicit false

namespace PictureFrame

/-- The pixels that a block names: the columns from its first word to its third, the rows from its
second to its fourth, both ends included. -/
def Request.region (b : CommandBlock) : Finset (Nat × Nat) :=
  Finset.Icc (littleEndian [b[7], b[8]]) (littleEndian [b[11], b[12]]) ×ˢ
    Finset.Icc (littleEndian [b[9], b[10]]) (littleEndian [b[13], b[14]])

namespace Rect

/-- The end that a block names for an end of a rectangle: a zero is sent as the largest word. -/
def sentEnd (stop : UInt16) : Nat := if stop = 0 then 65536 else stop.toNat

/-- An end is zero, and neither the columns nor the rows are empty for another reason. -/
def Wraps (r : Rect) : Prop :=
  (r.right = 0 ∨ r.bottom = 0) ∧ (r.right = 0 ∨ r.left < r.right) ∧
    (r.bottom = 0 ∨ r.top < r.bottom)

theorem toNat_sub_one_add_one (stop : UInt16) : (stop - 1).toNat + 1 = sentEnd stop := by
  have hlt := stop.toNat_lt
  rw [toNat_sub_one16, sentEnd]
  split_ifs with hzero
  · rw [hzero]
    rfl
  · have hpos : stop.toNat ≠ 0 := fun h => hzero (UInt16.toNat_inj.1 h)
    omega

theorem lt_sentEnd_iff {start stop : UInt16} :
    start.toNat < sentEnd stop ↔ stop = 0 ∨ start < stop := by
  have hlt := start.toNat_lt
  rw [sentEnd, UInt16.lt_iff_toNat_lt]
  split_ifs with hzero
  · exact ⟨fun _ => .inl hzero, fun _ => hlt⟩
  · exact ⟨.inr, fun h => h.resolve_left hzero⟩

theorem wraps_iff {r : Rect} : r.Wraps ↔ (r.right = 0 ∨ r.bottom = 0) ∧
    r.left.toNat < sentEnd r.right ∧ r.top.toNat < sentEnd r.bottom := by
  rw [Wraps, lt_sentEnd_iff, lt_sentEnd_iff]

theorem region_blit (r : Rect) : Request.region (Request.blit r).block =
    Finset.Icc r.left.toNat (r.right - 1).toNat ×ˢ
      Finset.Icc r.top.toNat (r.bottom - 1).toNat := by
  simp only [← littleEndian_bytes16]
  rfl

theorem mem_region_iff {r : Rect} {x y : Nat} : (x, y) ∈ Request.region (Request.blit r).block ↔
    r.left.toNat ≤ x ∧ x < sentEnd r.right ∧ r.top.toNat ≤ y ∧ y < sentEnd r.bottom := by
  rw [region_blit, Finset.mem_product, Finset.mem_Icc, Finset.mem_Icc, ← toNat_sub_one_add_one,
    ← toNat_sub_one_add_one]
  omega

theorem card_region (r : Rect) : (Request.region (Request.blit r).block).card =
    (sentEnd r.right - r.left.toNat) * (sentEnd r.bottom - r.top.toNat) := by
  rw [region_blit, Finset.card_product, Nat.card_Icc, Nat.card_Icc, toNat_sub_one_add_one,
    toNat_sub_one_add_one]

theorem byteLength_of_zero {r : Rect} (h : r.right = 0 ∨ r.bottom = 0) : r.byteLength = 0 := by
  rcases h with hright | hbottom
  · simp [byteLength, width, hright]
  · simp [byteLength, height, hbottom]

theorem sentEnd_of_ne {stop : UInt16} (h : stop ≠ 0) : sentEnd stop = stop.toNat := if_neg h

theorem card_region_eq_iff (r : Rect) :
    2 * (Request.region (Request.blit r).block).card = r.byteLength ↔ ¬ r.Wraps := by
  rw [wraps_iff, card_region]
  by_cases hzero : r.right = 0 ∨ r.bottom = 0
  -- There are no bytes, so the two agree where the region is empty in one of its directions.
  · rw [byteLength_of_zero hzero, Nat.mul_eq_zero, Nat.mul_eq_zero, and_iff_right hzero]
    omega
  · obtain ⟨hright, hbottom⟩ := not_or.1 hzero
    rw [sentEnd_of_ne hright, sentEnd_of_ne hbottom, byteLength, Nat.mul_comm]
    exact ⟨fun _ hwraps => hzero hwraps.1, fun _ => rfl⟩

theorem region_exact_iff (r : Rect) :
    (∀ x y, (x, y) ∈ Request.region (Request.blit r).block ↔ r.Contains x y) ↔ ¬ r.Wraps := by
  simp only [mem_region_iff, wraps_iff, Contains]
  constructor
  · rintro hexact ⟨hzero, hleft, htop⟩
    obtain ⟨-, hx, -, hy⟩ := (hexact r.left.toNat r.top.toNat).1
      ⟨Nat.le_refl _, hleft, Nat.le_refl _, htop⟩
    rcases hzero with hright | hbottom
    · simp [hright] at hx
    · simp [hbottom] at hy
  · intro hwraps x y
    by_cases hzero : r.right = 0 ∨ r.bottom = 0
    · have hnone : r.right.toNat = 0 ∨ r.bottom.toNat = 0 :=
        hzero.imp (congrArg UInt16.toNat) (congrArg UInt16.toNat)
      have hempty : ¬ (r.left.toNat < sentEnd r.right ∧ r.top.toNat < sentEnd r.bottom) :=
        fun h => hwraps ⟨hzero, h⟩
      omega
    · obtain ⟨hright, hbottom⟩ := not_or.1 hzero
      rw [sentEnd_of_ne hright, sentEnd_of_ne hbottom]

end Rect

/-- How the block and the payload of a blit fit together: unless an end wraps, and only then, the
block names as many pixels as the payload carries, and these are the pixels of the rectangle. -/
structure Rect.Matches (rect : Rect) (block : CommandBlock) (payload : Bytes) : Prop where
  size : payload.size = rect.byteLength
  count : (Request.region block).card =
    (sentEnd rect.right - rect.left.toNat) * (sentEnd rect.bottom - rect.top.toNat)
  carried : 2 * (Request.region block).card = payload.size ↔ ¬ rect.Wraps
  pixels : (∀ x y, (x, y) ∈ Request.region block ↔ rect.Contains x y) ↔ ¬ rect.Wraps

theorem Rect.matches_blit {rect : Rect} {payload : Bytes} (h : payload.size = rect.byteLength) :
    rect.Matches (Request.blit rect).block payload :=
  ⟨h, card_region rect, h ▸ card_region_eq_iff rect, region_exact_iff rect⟩

namespace Frame

/-- For every rectangle and every slice, a blit sends nothing, or it is one exchange whose block and
payload fit together as far as its ends do not wrap. -/
theorem blit_matches {π : Type} [Usb.Pipe π] (pixels : Bytes) (rect : Rect)
    (frame : Frame (Usb.Recorded π)) :
    pixels.size < rect.byteLength ∧ (blit pixels rect frame).2 = frame ∨
      ∃ (block : CommandBlock) (payload : Bytes) (turns : List Usb.Turn)
        (outcome : Exchange.Outcome), rect.byteLength ≤ pixels.size ∧
        (blit pixels rect frame).1 = outcome.result ∧
        (blit pixels rect frame).2.pipe.calls = frame.pipe.calls ++ turns.map Usb.Turn.call ∧
        Exchange.Conforms block (.send payload) turns outcome ∧ rect.Matches block payload := by
  rcases Nat.lt_or_ge pixels.size rect.byteLength with hfew | henough
  · exact .inl ⟨hfew, by rw [blit_of_few hfew]⟩
  · obtain ⟨turns, -, hcalls, hconforms⟩ := Exchange.exists_conforms_recorded
      (Request.blit rect).block (.send (pixels.extract 0 rect.byteLength)) frame.pipe
    refine .inr ⟨_, _, turns, _, henough, ?_, ?_, hconforms,
      Rect.matches_blit (size_payload henough)⟩
    · rw [blit_of_enough henough]
    · rw [blit_of_enough henough]
      exact hcalls

/-- A rectangle without pixels whose right end is zero: no data is sent, for 262,124 pixels. -/
theorem not_region_carried : ∃ envelope : EnvelopeBytes,
    (blit #[] ⟨5, 5, 0, 9⟩ (⟨⟨⟨[.ok #[0x55, 0x53, 0x42, 0x53, 0, 0, 0, 0, 0, 0, 0, 0, 0]], []⟩, []⟩,
        320, 240⟩ : Frame (Usb.Recorded Usb.Script))).1 = .ok 0 ∧
    (blit #[] ⟨5, 5, 0, 9⟩ (⟨⟨⟨[.ok #[0x55, 0x53, 0x42, 0x53, 0, 0, 0, 0, 0, 0, 0, 0, 0]], []⟩, []⟩,
        320, 240⟩ : Frame (Usb.Recorded Usb.Script))).2.pipe.calls =
      [.write 0x01 1000 envelope.toArray, .write 0x01 3000 #[], .read 0x81 5000 13] ∧
    (Rect.byteLength ⟨5, 5, 0, 9⟩) = 0 ∧
    (Request.region (Envelope.carried envelope)).card = 262124 := by
  refine ⟨Envelope.encode (Request.blit ⟨5, 5, 0, 9⟩).block 0, rfl, rfl, rfl, ?_⟩
  rw [Envelope.carried_encode, Rect.card_region]
  decide

end Frame
end PictureFrame
