import PictureFrame.Proofs.CommandLine.Accepted
import PictureFrame.Proofs.CommandLine.Opening
import PictureFrame.Proofs.CommandLine.Push

set_option autoImplicit false

/-!
# What clearing paints

Clearing pushes a picture of one colour that has the panel's size, and what is pushed is drawn at
positions taken modulo the canvas. All of them fall on the canvas and every pixel of the canvas is
one of them, so the colour ends where the canvas does. A run that succeeds has sent the whole panel
in one blit, and it is of one colour exactly if the canvas covers the panel or the colour is black
to the panel.
-/
namespace PictureFrame

theorem Color.SameShade.packed_eq {c c' : Color} (h : c.SameShade c') : c'.packed = c.packed := by
  obtain ⟨hred, hgreen, hblue⟩ := h
  rw [packed, packed, rgb565, rgb565, hred, hgreen, hblue]

def Packed.copies (p : Packed) (count : Nat) : Bytes :=
  .ofFn fun i : Fin (count * 2) => if i.val % 2 = 0 then p.high else p.low

theorem Packed.size_copies (p : Packed) (count : Nat) : (p.copies count).size = count * 2 :=
  Array.size_ofFn

theorem Packed.ofBytes_copies (p : Packed) {count i : Nat} (h : i < count) :
    Packed.ofBytes (p.copies count) (i * 2) = p := by
  have hhigh : i * 2 < count * 2 := by omega
  have hlow : i * 2 + 1 < count * 2 := by omega
  have heven : i * 2 % 2 = 0 := by omega
  have hodd : (i * 2 + 1) % 2 ≠ 0 := by omega
  simp only [Packed.ofBytes, copies, Array.getElem?_ofFn, hhigh, hlow, heven, hodd, dite_true,
    if_true, if_false, Option.getD_some]

theorem Packed.eq_copies {p : Packed} {count : Nat} {bytes : Bytes} (hsize : bytes.size = count * 2)
    (h : ∀ i < count, Packed.ofBytes bytes (i * 2) = p) : bytes = p.copies count := by
  refine Array.ext (hsize.trans (p.size_copies count).symm) ?_
  intro k hk hk'
  have hplace : k / 2 < count := by omega
  have hsame := (h (k / 2) hplace).trans (p.ofBytes_copies hplace).symm
  rw [Packed.ofBytes, Packed.ofBytes, Packed.mk.injEq] at hsame
  rcases Nat.mod_two_eq_zero_or_one k with heven | hodd
  · have hbyte := hsame.1
    rw [show k / 2 * 2 = k by omega] at hbyte
    rwa [Array.getElem?_eq_getElem hk, Array.getElem?_eq_getElem hk'] at hbyte
  · have hbyte := hsame.2
    rw [show k / 2 * 2 + 1 = k by omega] at hbyte
    rwa [Array.getElem?_eq_getElem hk, Array.getElem?_eq_getElem hk'] at hbyte

namespace Session

variable {fb : Framebuffer} {d : Display} {positions : List (UInt32 × UInt32)} {u v : Nat}

/-- Where positions of one colour share a pixel it does not matter which comes last. -/
theorem grid_copied_of_uniform (wf : d.WellFormed) {p : Packed}
    (h : ∀ q ∈ positions, packedAt fb q = p) (huv : d.OnPanel u v) :
    ((∃ q ∈ positions, u = d.column q.1 ∧ v = d.line q.2) →
      (copied fb positions d).grid u v = p) ∧
    ((¬ ∃ q ∈ positions, u = d.column q.1 ∧ v = d.line q.2) →
      (copied fb positions d).grid u v = d.grid u v) := by
  constructor
  · rintro ⟨q, hq, rfl, rfl⟩
    obtain ⟨last, hlast⟩ : ∃ last, LastOn d positions q last := exists_lastOn ⟨q, hq, rfl, rfl⟩
    obtain ⟨before, after, hsplit, -⟩ := id hlast
    rw [hlast.grid_copied wf huv]
    refine h last ?_
    rw [hsplit]
    exact List.mem_append_right before List.mem_cons_self
  · intro hmissed
    exact grid_copied_of_missed wf huv fun q hq hon => hmissed ⟨q, hq, hon⟩

theorem exists_position_iff (wf : d.WellFormed) (hwidth : fb.width = d.width.toUInt32)
    (hheight : fb.height = d.height.toUInt32) (huv : d.OnPanel u v) :
    (∃ q ∈ Session.positions fb 0 0 fb.width fb.height, u = d.column q.1 ∧ v = d.line q.2) ↔
      u < d.canvasWidth.toNat ∧ v < d.canvasHeight.toNat := by
  constructor
  · rintro ⟨q, -, rfl, rfl⟩
    exact ⟨Nat.mod_lt _ wf.canvasWidth_pos, Nat.mod_lt _ wf.canvasHeight_pos⟩
  · rintro ⟨hu, hv⟩
    have hcolumn : u < fb.width.toNat := by
      rw [hwidth, UInt16.toNat_toUInt32]
      exact huv.1
    have hrow : v < fb.height.toNat := by
      rw [hheight, UInt16.toNat_toUInt32]
      exact huv.2
    obtain ⟨column, rfl⟩ := exists_word32 hcolumn
    obtain ⟨row, rfl⟩ := exists_word32 hrow
    refine ⟨(column, row), mem_positions.2 ⟨?_, hcolumn, hrow⟩, ?_⟩
    · simp only [InRegion, UInt32.toNat_zero]
      omega
    · exact ⟨(Nat.mod_eq_of_lt hu).symm, (Nat.mod_eq_of_lt hv).symm⟩

end Session

namespace CommandLine

open Usb (Bus Handle Turn)

def OnCanvas (settings : Settings) (width height : UInt16) (x y : Nat) : Prop :=
  x < (max (settings.canvas.width.getD width) 1).toNat ∧
    y < (max (settings.canvas.height.getD height) 1).toNat

instance (settings : Settings) (width height : UInt16) (x y : Nat) :
    Decidable (OnCanvas settings width height x y) :=
  inferInstanceAs (Decidable (_ ∧ _))

theorem covers_iff {settings : Settings} {width height : UInt16} (hwidth : 1 ≤ width)
    (hheight : 1 ≤ height) : Covers settings width height ↔
      ∀ x < width.toNat, ∀ y < height.toNat, OnCanvas settings width height x y := by
  have hw : 1 ≤ width.toNat := UInt16.le_iff_toNat_le.1 hwidth
  have hh : 1 ≤ height.toNat := UInt16.le_iff_toNat_le.1 hheight
  rw [Covers, UInt16.le_iff_toNat_le, UInt16.le_iff_toNat_le]
  constructor
  · intro h x hx y hy
    exact ⟨Nat.lt_of_lt_of_le hx h.1, Nat.lt_of_lt_of_le hy h.2⟩
  · intro h
    obtain ⟨hx, hy⟩ := h (width.toNat - 1) (by omega) (height.toNat - 1) (by omega)
    omega

/-- One blit of the whole panel, sent after the level of the settings was set, if they have one, and
answered like everything before it. -/
structure Cleared (settings : Settings) (color : Color) (width height : UInt16) (payload : Bytes)
    (turns : List Turn) : Prop where
  follows : ∃ query rest fits, turns = query ++ rest ∧ Frame.Reported query width height ∧
    Follows (settings.backlight.toList.map Task.brightness ++
      [.blit ⟨0, 0, width, height⟩ payload fits]) rest (.ok ())
  envelopes : envelopes (turns.map Turn.call) =
    (Request.parameters :: planned settings [.blit ⟨0, 0, width, height⟩]).map Request.envelope
  pixels : ∀ x < width.toNat, ∀ y < height.toNat,
    (⟨0, 0, width, height⟩ : Rect).pixelIn payload x y =
      if OnCanvas settings width height x y then color.packed else ⟨0, 0⟩
  solid : payload = color.packed.copies (width.toNat * height.toNat) ↔
    Covers settings width height ∨ color.packed = ⟨0, 0⟩

theorem pixelIn_whole (width height : UInt16) (payload : Bytes) (x y : Nat) :
    (⟨0, 0, width, height⟩ : Rect).pixelIn payload x y =
      .ofBytes payload ((y * width.toNat + x) * 2) :=
  rfl

theorem solid_iff {settings : Settings} {color : Color} {width height : UInt16} {payload : Bytes}
    (hwidth : 1 ≤ width) (hheight : 1 ≤ height)
    (hsize : payload.size = width.toNat * height.toNat * 2)
    (hpixels : ∀ x < width.toNat, ∀ y < height.toNat,
      (⟨0, 0, width, height⟩ : Rect).pixelIn payload x y =
        if OnCanvas settings width height x y then color.packed else ⟨0, 0⟩) :
    payload = color.packed.copies (width.toNat * height.toNat) ↔
      Covers settings width height ∨ color.packed = ⟨0, 0⟩ := by
  rw [covers_iff hwidth hheight]
  constructor
  · intro hcopies
    by_cases hall : ∀ x < width.toNat, ∀ y < height.toNat, OnCanvas settings width height x y
    · exact .inl hall
    · simp only [Classical.not_forall] at hall
      obtain ⟨x, hx, y, hy, hoff⟩ := hall
      have hpixel := hpixels x hx y hy
      rw [if_neg hoff, pixelIn_whole, hcopies,
        Packed.ofBytes_copies _ (rowMajor_lt hx hy)] at hpixel
      exact .inr hpixel
  · intro hsolid
    have hw : 0 < width.toNat := UInt16.le_iff_toNat_le.1 hwidth
    refine Packed.eq_copies hsize ?_
    intro i hi
    have hx : i % width.toNat < width.toNat := Nat.mod_lt i hw
    have hy : i / width.toNat < height.toNat := Nat.div_lt_of_lt_mul hi
    have hpixel := hpixels _ hx _ hy
    rw [pixelIn_whole, Nat.mul_comm (i / width.toNat), Nat.div_add_mod] at hpixel
    rw [hpixel]
    split_ifs with hon
    · rfl
    · rcases hsolid with hall | hblack
      · exact absurd (hall _ hx _ hy) hon
      · exact hblack.symm

variable {π : Type} {settings : Settings} {frame : Frame (Handle π)} {fb : Framebuffer}

theorem firstShown_of_uniform {color : Color} (hwidth : fb.width = frame.width.toUInt32)
    (hheight : fb.height = frame.height.toUInt32)
    (huniform : Uniform color (fb.width.toNat * fb.height.toNat) fb.data) {x y : Nat}
    (hx : x < frame.width.toNat) (hy : y < frame.height.toNat) :
    (firstShown settings frame fb).grid x y =
      if OnCanvas settings frame.width frame.height x y then color.packed else ⟨0, 0⟩ := by
  have wf := blank_wellFormed settings frame
  have hdims := (blank settings frame).markAll_size
  have hcanvas := (blank settings frame).markAll_canvas
  have hxy : (blank settings frame).markAll.OnPanel x y := by
    rw [Display.OnPanel, hdims.1, hdims.2]
    exact ⟨hx, hy⟩
  have hcolor : ∀ q ∈ Session.positions fb 0 0 fb.width fb.height,
      Session.packedAt fb q = color.packed := by
    intro q hq
    obtain ⟨-, hqx, hqy⟩ := Session.mem_positions.1 hq
    exact (huniform.pixels _ (rowMajor_lt hqx hqy)).packed_eq
  obtain ⟨hpainted, hmissed⟩ := Session.grid_copied_of_uniform wf hcolor hxy
  have hreached := Session.exists_position_iff wf (hwidth.trans (by rw [hdims.1]; rfl))
    (hheight.trans (by rw [hdims.2]; rfl)) hxy
  rw [hcanvas.1, hcanvas.2] at hreached
  split_ifs with hon
  · exact hpainted (hreached.2 hon)
  · refine (hmissed fun hfall => hon (hreached.1 hfall)).trans ?_
    rw [Display.grid_markAll]
    exact Display.grid_withCanvas _ _ _ _ _ _

theorem payload_of_plain {s : Session (Frame (Handle π))} (h : Fresh settings frame fb s)
    (hwidth : 1 ≤ frame.width) (hheight : 1 ≤ frame.height) (color : Color) {x y : Nat}
    (hx : x < frame.width.toNat) (hy : y < frame.height.toNat) :
    (panel frame).pixelIn
        ((firstShown settings frame (drawn fb (plain color))).picture (panel frame)) x y =
      if OnCanvas settings frame.width frame.height x y then color.packed else ⟨0, 0⟩ := by
  obtain ⟨hwithin, hrect⟩ := firstShown_whole settings (drawn fb (plain color)) hwidth hheight
  have hinside := hwithin.rect_inside
  rw [hrect] at hinside
  rw [(firstShown_wellFormed settings frame _).pixelIn_picture hinside
    ⟨Nat.zero_le x, hx, Nat.zero_le y, hy⟩]
  generalize hdrawn : drawn fb (plain color) = shown
  refine firstShown_of_uniform ?_ ?_ ?_ hx hy
  · exact hdrawn ▸ h.width
  · exact hdrawn ▸ h.height
  · exact hdrawn ▸ uniform_plain color fb.width.toNat fb.height.toNat

theorem answer_of_finish {rect : Rect} {answer : Except Fault UInt8}
    {s : Session (Frame (Handle π))} {more : List String}
    (h : (finish (.ofAnswer rect answer, s) more).failure = none) : ∃ code, answer = .ok code := by
  cases answer with
  | ok code => exact ⟨code, rfl⟩
  | error fault =>
    change (Run.closing (Locator.close s.screen) [] (some (.dropped rect))).failure = none at h
    generalize Locator.close s.screen = closed at h
    obtain ⟨cause | done, after⟩ := closed <;> cases h

variable [Usb.Pipe π] {bus : Bus π}

theorem Lit.cleared {query lighting turns : List Turn} {color : Color} {payload : Bytes}
    {fits : payload.size = (panel frame).byteLength} {code : UInt8} {buffer : Bytes}
    (h : Lit settings bus frame query lighting)
    (hmade : (Task.blit (panel frame) payload fits).Makes turns ⟨.ok code, buffer⟩)
    (hpixels : ∀ x < frame.width.toNat, ∀ y < frame.height.toNat,
      (panel frame).pixelIn payload x y =
        if OnCanvas settings frame.width frame.height x y then color.packed else ⟨0, 0⟩) :
    Cleared settings color frame.width frame.height payload (query ++ (lighting ++ turns)) := by
  have hfollows := h.follows.append (Follows.single hmade)
  refine ⟨⟨query, lighting ++ turns, fits, rfl, h.reported, hfollows⟩, ?_, hpixels,
    solid_iff h.width_pos h.height_pos fits hpixels⟩
  rw [List.map_append, envelopes_append, h.reported.envelopes_eq, hfollows.envelopes_eq,
    h.planned_eq]
  simp only [List.map_cons, List.map_append, List.map_map]
  rfl

theorem clear_cleared {text : String}
    (h : (clear settings text bus).failure = none) :
    ∃ color width height payload turns, Color.ofHex? text = some color ∧
      Usb.Heard bus (clear settings text bus).bus turns ∧
      Cleared settings color width height payload turns := by
  cases hcolor : Color.ofHex? text with
  | none =>
    simp only [clear, hcolor] at h
    cases h
  | some color =>
    simp only [clear, hcolor] at h ⊢
    rcases openFrame_cases settings bus with ⟨failed, hopen, hunlit⟩ | ⟨frame, query, lighting,
      hopen, hlit⟩
    · obtain ⟨failure, hfailure, -⟩ := hunlit.failed
      rw [withSession_of_error hopen] at h
      cases h.symm.trans hfailure
    · obtain ⟨fb, s, hstart, hfresh⟩ := startSession_fresh settings frame
      have hfits := (fills_plain color).fits hfresh.allocated
      obtain ⟨payload, fits, turns, ⟨result, buffer⟩, s', hpayload, hpush, hturns, hmade⟩ :=
        hfresh.push_makes hlit.width_pos hlit.height_pos hfits
      have hrun : withSession settings bus (fun s => do
          return finish (← push s (plain color)) ["Display cleared to: " ++ text]) =
            finish (.ofAnswer (panel frame) result, s') ["Display cleared to: " ++ text] :=
        withSession_of_ok hopen hstart (by rw [hpush]; rfl)
      rw [hrun] at h ⊢
      obtain ⟨code, rfl⟩ := answer_of_finish h
      refine ⟨color, frame.width, frame.height, payload, query ++ (lighting ++ turns), rfl, ?_, ?_⟩
      · rw [finish_bus_eq_drop, ← List.append_assoc]
        exact (hlit.talked.append hturns).heard_drop
      · refine hlit.cleared hmade ?_
        intro x hx y hy
        rw [hpayload]
        exact payload_of_plain hfresh hlit.width_pos hlit.height_pos color hx hy

/-- A command line that clears the panel and succeeds has sent one blit, of the whole panel. In it
the pixels of the canvas have the colour and the others are black. -/
theorem clear_paints (decode : Decoder) (files : Files) (looks : Nat) (bus : Bus π)
    {args : List String} {config device : Option String} {text : String}
    (hparse : parse args = some (.run ⟨config, device, .clear text⟩))
    (hexit : (runLineWith decode args files looks bus).1.status = 0) :
    ∃ settings color width height payload turns,
      settingsOf files ⟨config, device, .clear text⟩ = .ok settings ∧
      Color.ofHex? text = some color ∧
      Usb.Heard bus (runLineWith decode args files looks bus).2 turns ∧
      Cleared settings color width height payload turns := by
  simp only [runLineWith, hparse] at hexit ⊢
  have hfailure := failure_of_status hexit
  cases hsettings : settingsOf files ⟨config, device, .clear text⟩ with
  | error failure =>
    simp only [run, hsettings] at hfailure
    cases hfailure
  | ok settings =>
    simp only [run, hsettings] at hfailure ⊢
    obtain ⟨color, width, height, payload, turns, hcolor, hheard, hcleared⟩ :=
      clear_cleared hfailure
    exact ⟨settings, color, width, height, payload, turns, rfl, hcolor, hheard, hcleared⟩

def narrowFile : Files := fun path =>
  if path = "narrow.toml" then .ok "[canvas]\nwidth = 1".toUTF8.data else .error .missing

def twoColumns : Bus Usb.Script where
  devices := [{
    vendor := 0x1908
    product := 0x0102
    pipe := { reads := [.ok #[2, 0, 1, 0, 0],
      .ok #[0x55, 0x53, 0x42, 0x53, 0, 0, 0, 0, 0, 0, 0, 0, 0],
      .ok #[0x55, 0x53, 0x42, 0x53, 0, 0, 0, 0, 0, 0, 0, 0, 0]] } }]

theorem clear_paints_narrow : ∃ settings width height payload turns,
    settings.canvas = ⟨some 1, none⟩ ∧
    Usb.Heard twoColumns (runLineWith picture? ["-c", "narrow.toml", "clear", "--color", "#FFFFFF"]
      narrowFile 1 twoColumns).2 turns ∧
    Cleared settings (.solid 255 255 255) width height payload turns := by
  obtain ⟨settings, color, width, height, payload, turns, hsettings, hcolor, hheard, hcleared⟩ :=
    clear_paints picture? narrowFile 1 twoColumns
      (show parse ["-c", "narrow.toml", "clear", "--color", "#FFFFFF"] =
        some (.run ⟨some "narrow.toml", none, .clear "#FFFFFF"⟩) by decide +kernel)
      (by decide +kernel)
  have hwhite : Color.ofHex? "#FFFFFF" = some (.solid 255 255 255) := by decide +kernel
  cases hcolor.symm.trans hwhite
  have hcanvas : (settingsOf narrowFile ⟨some "narrow.toml", none, .clear "#FFFFFF"⟩).toOption.map
      Settings.canvas = some ⟨some 1, none⟩ := by decide +kernel
  rw [hsettings] at hcanvas
  exact ⟨settings, width, height, payload, turns, Option.some.inj hcanvas, hheard, hcleared⟩

/-- The same run succeeds, and what it sends is not copies of one colour. -/
theorem not_clear_solid : ¬ ∀ (args : List String) (files : Files) (bus : Bus Usb.Script)
    (config device : Option String) (text : String) (color : Color),
    parse args = some (.run ⟨config, device, .clear text⟩) → Color.ofHex? text = some color →
      (runLine args files 1 bus).1.status = 0 → ∃ count, ∀ place payload,
        (place, .write 0x01 3000 payload) ∈ Usb.transfers (runLine args files 1 bus).2.events →
          payload = color.packed.copies count := by
  intro h
  obtain ⟨count, hcopies⟩ := h ["-c", "narrow.toml", "clear", "--color", "#FFFFFF"] narrowFile
    twoColumns (some "narrow.toml") none "#FFFFFF" (.solid 255 255 255) (by decide +kernel)
    (by decide +kernel) (by decide +kernel)
  have hpayload := hcopies 0 #[0xFF, 0xFF, 0, 0] (by decide +kernel)
  have hcount : 4 = count * 2 := (congrArg Array.size hpayload).trans (Packed.size_copies _ _)
  cases Nat.eq_of_mul_eq_mul_right (Nat.zero_lt_two) (show 2 * 2 = count * 2 from hcount)
  revert hpayload
  decide +kernel

end CommandLine
end PictureFrame
