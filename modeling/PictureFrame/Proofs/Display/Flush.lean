import PictureFrame.Proofs.Display.Grid

set_option autoImplicit false

namespace PictureFrame

def Rect.Inside (r : Rect) (width height : Nat) : Prop :=
  r.left.toNat < r.right.toNat ∧ r.right.toNat ≤ width ∧
    r.top.toNat < r.bottom.toNat ∧ r.bottom.toNat ≤ height

namespace DirtyBox

def rect (b : DirtyBox) : Rect := ⟨b.minX, b.minY, b.maxX + 1, b.maxY + 1⟩

variable {b : DirtyBox} {width height : UInt16}

theorem Within.toNat_next (h : b.Within width.toNat height.toNat) :
    (b.maxX + 1).toNat = b.maxX.toNat + 1 ∧ (b.maxY + 1).toNat = b.maxY.toNat + 1 := by
  obtain ⟨-, hx, -, hy⟩ := h
  have hwidth := width.toNat_lt
  have hheight := height.toNat_lt
  simp only [UInt16.toNat_add, UInt16.reduceToNat]
  omega

theorem Within.toRect_eq (h : b.Within width.toNat height.toNat) :
    b.toRect = .ok (some b.rect) := by
  have hwidth := width.toNat_lt
  have hheight := height.toNat_lt
  have hx : b.maxX ≠ 0xFFFF := ne_last_iff16.2 (Nat.lt_of_lt_of_le h.2.1 (by omega))
  have hy : b.maxY ≠ 0xFFFF := ne_last_iff16.2 (Nat.lt_of_lt_of_le h.2.2.2 (by omega))
  have hfull : b.isEmpty = false := by
    have hminX := h.1
    have hminY := h.2.2.1
    simp only [isEmpty, decide_eq_false_iff_not, UInt16.lt_iff_toNat_lt]
    omega
  simp only [toRect, hfull, Checked.next16, hx, hy]
  rfl

theorem Within.rect_inside (h : b.Within width.toNat height.toNat) :
    b.rect.Inside width.toNat height.toNat := by
  obtain ⟨hx, hy⟩ := h.toNat_next
  obtain ⟨hminX, hmaxX, hminY, hmaxY⟩ := h
  simp only [Rect.Inside, rect, hx, hy]
  omega

theorem Within.contains_rect (h : b.Within width.toNat height.toNat) (x y : Nat) :
    b.rect.Contains x y ↔ b.Contains x y := by
  obtain ⟨hx, hy⟩ := h.toNat_next
  simp only [Rect.Contains, Contains, rect, hx, hy]
  omega

theorem empty_toRect : empty.toRect = .ok none := rfl

end DirtyBox

def Flush.ofAnswer (rect : Rect) : Except Fault UInt8 → Flush
  | .ok code => .sent rect code
  | .error _ => .dropped rect

theorem Flush.ofAnswer_eq_sent {rect : Rect} {answer : Except Fault UInt8} {code : UInt8} :
    ofAnswer rect answer = .sent rect code ↔ answer = .ok code := by
  cases answer <;> simp [ofAnswer]

theorem Flush.ofAnswer_eq_dropped {rect : Rect} {answer : Except Fault UInt8} :
    ofAnswer rect answer = .dropped rect ↔ ∃ fault, answer = .error fault := by
  cases answer <;> simp [ofAnswer]

theorem Flush.ofAnswer_ne_clean (rect : Rect) (answer : Except Fault UInt8) :
    ofAnswer rect answer ≠ .clean := by
  cases answer <;> nofun

theorem append_rows_getElem?_of_lt (row : Nat → Bytes) (rows : List Nat) (bytes : Bytes) {k : Nat}
    (hk : k < bytes.size) :
    (rows.foldl (fun done y => done ++ row y) bytes)[k]? = bytes[k]? := by
  induction rows generalizing bytes with
  | nil => rfl
  | cons y rows ih =>
    rw [List.foldl_cons, ih _ (by rw [Array.size_append]; omega), Array.getElem?_append_left hk]

theorem append_rows_size {row : Nat → Bytes} {rows : List Nat} {size : Nat} (bytes : Bytes)
    (hrow : ∀ y ∈ rows, (row y).size = size) :
    (rows.foldl (fun done y => done ++ row y) bytes).size = bytes.size + rows.length * size := by
  induction rows generalizing bytes with
  | nil => simp
  | cons y rows ih =>
    rw [List.foldl_cons, ih _ (fun v hv => hrow v (List.mem_cons_of_mem _ hv)), Array.size_append,
      hrow y List.mem_cons_self, List.length_cons, Nat.succ_mul]
    omega

theorem append_rows_getElem? {row : Nat → Bytes} {rows : List Nat} {size : Nat} (bytes : Bytes)
    (hrow : ∀ y ∈ rows, (row y).size = size) {i j : Nat} (hi : i < rows.length) (hj : j < size) :
    (rows.foldl (fun done y => done ++ row y) bytes)[bytes.size + (i * size + j)]? =
      (row rows[i])[j]? := by
  induction rows generalizing bytes i with
  | nil => exact absurd hi (Nat.not_lt_zero i)
  | cons y rows ih =>
    have hy := hrow y List.mem_cons_self
    rw [List.foldl_cons]
    cases i with
    | zero =>
      rw [append_rows_getElem?_of_lt row rows _ (by rw [Array.size_append]; omega),
        Array.getElem?_append_right (by omega)]
      congr 1
      omega
    | succ i =>
      have htail := ih (bytes ++ row y) (fun v hv => hrow v (List.mem_cons_of_mem _ hv))
        (Nat.lt_of_succ_lt_succ hi)
      rw [Array.size_append, hy] at htail
      rw [List.getElem_cons_succ, ← htail, Nat.succ_mul]
      congr 1
      omega

namespace Display

variable {d : Display}

def rowBytes (d : Display) (rect : Rect) (y : Nat) : Bytes :=
  d.resident.extract (d.offset rect.left.toNat y) (d.offset rect.left.toNat y + rect.width * 2)

def picture (d : Display) (rect : Rect) : Bytes :=
  (List.range' rect.top.toNat rect.height).foldl (fun done y => done ++ d.rowBytes rect y) #[]

variable {rect : Rect}

theorem WellFormed.row_stop_le (wf : d.WellFormed)
    (h : rect.Inside d.width.toNat d.height.toNat) {y : Nat} (hy : y < d.height.toNat) :
    d.offset rect.left.toNat y + rect.width * 2 ≤ d.resident.size := by
  obtain ⟨hleft, hright, -, -⟩ := h
  have hlast : y * d.width.toNat + (rect.right.toNat - 1) < d.width.toNat * d.height.toNat :=
    rowMajor_lt (by omega) hy
  rw [wf.resident_size]
  unfold offset Rect.width
  omega

theorem WellFormed.rowBytes_size (wf : d.WellFormed)
    (h : rect.Inside d.width.toNat d.height.toNat) {y : Nat} (hy : y < d.height.toNat) :
    (d.rowBytes rect y).size = rect.width * 2 := by
  have hstop := wf.row_stop_le h hy
  rw [rowBytes, Array.size_extract]
  omega

theorem mem_rows {y : Nat} (h : rect.Inside d.width.toNat d.height.toNat)
    (hy : y ∈ List.range' rect.top.toNat rect.height) : y < d.height.toNat := by
  obtain ⟨-, -, htop, hbottom⟩ := h
  rw [List.mem_range'_1] at hy
  unfold Rect.height at hy
  omega

theorem WellFormed.appendRows_eq (wf : d.WellFormed)
    (h : rect.Inside d.width.toNat d.height.toNat) :
    d.appendRows rect #[] = .ok (d.picture rect) := by
  refine (Checked.foldlM_eq_ok (fun _ => True) _ _ trivial ?_).1
  intro done _ y hy
  have hstop := wf.row_stop_le h (mem_rows h hy)
  rw [row, if_pos hstop]
  exact ⟨rfl, trivial⟩

theorem WellFormed.picture_size (wf : d.WellFormed)
    (h : rect.Inside d.width.toNat d.height.toNat) : (d.picture rect).size = rect.byteLength := by
  rw [picture, append_rows_size #[] fun y hy => wf.rowBytes_size h (mem_rows h hy),
    List.length_range', Array.size_empty, Rect.byteLength, Nat.zero_add,
    ← Nat.mul_assoc, Nat.mul_comm rect.height]

theorem append_extracts (data : Bytes) (size rows : Nat) :
    (List.range' 0 rows).foldl (fun done y => done ++ data.extract (y * size) (y * size + size)) #[] =
      data.extract 0 (rows * size) := by
  induction rows with
  | zero => simp
  | succ rows ih =>
    rw [List.range'_concat, List.foldl_append, ih, List.foldl_cons, List.foldl_nil, Nat.one_mul,
      Nat.zero_add, Array.extract_append_extract, Nat.zero_min,
      Nat.max_eq_right (Nat.le_add_right _ _), Nat.succ_mul]

theorem WellFormed.picture_whole (wf : d.WellFormed) :
    d.picture ⟨0, 0, d.width, d.height⟩ = d.resident := by
  have hrow : ∀ y, d.rowBytes ⟨0, 0, d.width, d.height⟩ y =
      d.resident.extract (y * (d.width.toNat * 2)) (y * (d.width.toNat * 2) + d.width.toNat * 2) := by
    intro y
    simp only [rowBytes, offset, Rect.width, UInt16.toNat_zero, Nat.add_zero, Nat.sub_zero,
      Nat.mul_assoc]
  have hsize : d.height.toNat * (d.width.toNat * 2) = d.resident.size := by
    rw [wf.resident_size, Nat.mul_left_comm, Nat.mul_assoc]
  simp only [picture, hrow]
  change (List.range' 0 d.height.toNat).foldl _ #[] = _
  rw [append_extracts, hsize, Array.extract_size]

theorem onPanel_of_inside (h : rect.Inside d.width.toNat d.height.toNat) {x y : Nat}
    (hxy : rect.Contains x y) : d.OnPanel x y :=
  ⟨Nat.lt_of_lt_of_le hxy.2.1 h.2.1, Nat.lt_of_lt_of_le hxy.2.2.2 h.2.2.2⟩

/-- The payload shows every pixel of the rectangle as it is stored. -/
theorem WellFormed.pixelIn_picture (wf : d.WellFormed)
    (h : rect.Inside d.width.toNat d.height.toNat) {x y : Nat} (hxy : rect.Contains x y) :
    rect.pixelIn (d.picture rect) x y = d.grid x y := by
  obtain ⟨hleft, hright, htop, hbottom⟩ := hxy
  have hrow : ∀ v ∈ List.range' rect.top.toNat rect.height,
      (d.rowBytes rect v).size = rect.width * 2 := fun v hv => wf.rowBytes_size h (mem_rows h hv)
  have hi : y - rect.top.toNat < (List.range' rect.top.toNat rect.height).length := by
    rw [List.length_range', Rect.height]
    omega
  have hbyte : ∀ k < 2, (d.picture rect)[((y - rect.top.toNat) * rect.width +
      (x - rect.left.toNat)) * 2 + k]? = d.resident[d.offset x y + k]? := by
    intro k hk
    have hj : (x - rect.left.toNat) * 2 + k < rect.width * 2 := by
      unfold Rect.width
      omega
    have hget := append_rows_getElem? #[] hrow hi hj
    have hplace : ((y - rect.top.toNat) * rect.width + (x - rect.left.toNat)) * 2 + k =
        (#[] : Bytes).size + ((y - rect.top.toNat) * (rect.width * 2) +
          ((x - rect.left.toNat) * 2 + k)) := by
      rw [Array.size_empty, ← Nat.mul_assoc]
      omega
    have hy : (List.range' rect.top.toNat rect.height)[y - rect.top.toNat] = y := by
      rw [List.getElem_range']
      omega
    rw [hplace, picture, hget, hy, rowBytes, Array.getElem?_extract]
    have hstop := wf.row_stop_le h (Nat.lt_of_lt_of_le hbottom h.2.2.2)
    rw [if_pos (by omega)]
    congr 1
    unfold offset
    omega
  rw [Rect.pixelIn, grid, Packed.ofBytes, Packed.ofBytes]
  rw [hbyte 1 (by omega)]
  have hzero := hbyte 0 (by omega)
  rw [Nat.add_zero, Nat.add_zero] at hzero
  rw [hzero]

def flushed (d : Display) : Display :=
  { d with scratch := d.picture d.dirty.rect, dirty := .empty }

theorem flush_of_empty {σ : Type} [Screen σ] (h : d.dirty = .empty) (screen : σ) :
    d.flush screen = .ok (.clean, d, screen) := by
  rw [flush, h, DirtyBox.empty_toRect]
  rfl

theorem WellFormed.flush_of_within {σ : Type} [Screen σ] (wf : d.WellFormed)
    (h : d.dirty.Within d.width.toNat d.height.toNat) (screen : σ) :
    d.flush screen = .ok (.ofAnswer d.dirty.rect
        (Screen.blit (d.picture d.dirty.rect) d.dirty.rect screen).1,
      d.flushed, (Screen.blit (d.picture d.dirty.rect) d.dirty.rect screen).2) := by
  have hscratch : d.scratch.shrink 0 = #[] := by simp
  rw [flush, h.toRect_eq]
  change (d.appendRows d.dirty.rect (d.scratch.shrink 0) >>= _) = _
  rw [hscratch, wf.appendRows_eq h.rect_inside]
  simp only [bind, Except.bind]
  rcases Screen.blit (d.picture d.dirty.rect) d.dirty.rect screen with ⟨answer, left⟩
  cases answer <;> rfl

/-- Whatever a flush finds, it leaves the screen alone or blits to it once. -/
theorem flush_screen {σ : Type} [Screen σ] {d d' : Display} {screen screen' : σ} {outcome : Flush}
    (h : d.flush screen = .ok (outcome, d', screen')) :
    screen' = screen ∨ ∃ payload rect, screen' = (Screen.blit payload rect screen).2 := by
  obtain ⟨region, -, h⟩ := Checked.bind_eq_ok.1 h
  cases region with
  | none =>
    cases h
    exact .inl rfl
  | some rect =>
    obtain ⟨payload, -, h⟩ := Checked.bind_eq_ok.1 h
    refine .inr ⟨payload, rect, ?_⟩
    rcases hblit : Screen.blit payload rect screen with ⟨answer, left⟩
    rw [hblit] at h
    cases answer <;> cases h <;> rfl

theorem WellFormed.flushed (wf : d.WellFormed)
    (h : d.dirty.Within d.width.toNat d.height.toNat) : d.flushed.WellFormed := by
  refine ⟨wf.resident_size, ?_, wf.canvasWidth_pos, wf.canvasHeight_pos, .inl rfl⟩
  change (d.picture d.dirty.rect).size ≤ d.width.toNat * d.height.toNat * 2
  obtain ⟨hleft, hright, htop, hbottom⟩ := h.rect_inside
  rw [wf.picture_size h.rect_inside, Rect.byteLength]
  apply Nat.mul_le_mul_right
  apply Nat.mul_le_mul
  · unfold Rect.width
    omega
  · unfold Rect.height
    omega

theorem WellFormed.pixel_flushed (wf : d.WellFormed)
    (h : d.dirty.Within d.width.toNat d.height.toNat) {x y : UInt16}
    (hxy : d.dirty.rect.Contains x.toNat y.toNat) : d.flushed.pixel x y =
      .ok (some (d.dirty.rect.pixelIn (d.picture d.dirty.rect) x.toNat y.toNat)) := by
  have hinside := h.rect_inside
  have hpanel : d.flushed.OnPanel x.toNat y.toNat := onPanel_of_inside hinside hxy
  rw [(wf.flushed h).pixel_eq hpanel, wf.pixelIn_picture hinside hxy]
  rfl

end Display
end PictureFrame
