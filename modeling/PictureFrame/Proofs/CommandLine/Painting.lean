import PictureFrame.Proofs.CommandLine.Accepted
import PictureFrame.Proofs.CommandLine.Push
import PictureFrame.Proofs.Session.TopBits

set_option autoImplicit false

/-!
# Three ways to paint the panel

Painting an image, watching an image file for one look and clearing the panel differ in what they
report and in when they close their frame. What they do to the bus is the same: a frame that is
dropped is released and closed as one that is closed, and the pictures that are drawn count only by
the top bits of their colours.
-/
namespace PictureFrame

theorem Color.SameShade.alike {shade c c' : Color} (h : shade.SameShade c)
    (h' : shade.SameShade c') : c.Alike c' :=
  ⟨by rw [h.1, h'.1], by rw [h.2.1, h'.2.1], by rw [h.2.2, h'.2.2]⟩

theorem alikeFrom_of_colors {count : Nat} {bytes bytes' : Bytes} (hsize : bytes.size = count * 4)
    (hsize' : bytes'.size = count * 4)
    (h : ∀ i < count, (Color.ofData bytes (i * 4)).Alike (Color.ofData bytes' (i * 4))) :
    AlikeFrom 0 bytes.toList bytes'.toList := by
  refine ⟨hsize'.trans hsize.symm, ?_⟩
  intro i b b' hb hb'
  rw [Array.getElem?_toList] at hb hb'
  obtain ⟨hi, -⟩ := Array.getElem?_eq_some_iff.1 hb
  have halike := h (i / 4) (by omega)
  rw [Nat.zero_add]
  -- The component that byte `i` belongs to is told by its place in the pixel.
  have hplace : ∀ k, i % 4 = k → i / 4 * 4 + k = i := by omega
  rcases (by omega : i % 4 = 0 ∨ i % 4 = 1 ∨ i % 4 = 2 ∨ i % 4 = 3) with hk | hk | hk | hk
  · have hred := halike.red
    simp only [Color.ofData, show i / 4 * 4 = i from hplace 0 hk, hb, hb', Option.getD_some] at hred
    exact (alikeAt_red hk).2 hred
  · have hgreen := halike.green
    simp only [Color.ofData, hplace 1 hk, hb, hb', Option.getD_some] at hgreen
    exact (alikeAt_green hk).2 hgreen
  · have hblue := halike.blue
    simp only [Color.ofData, hplace 2 hk, hb, hb', Option.getD_some] at hblue
    exact (alikeAt_blue hk).2 hblue
  · exact alikeAt_alpha hk b b'

theorem Uniform.alike {color : Color} {count : Nat} {bytes bytes' : Bytes}
    (h : Uniform color count bytes) (h' : Uniform color count bytes') :
    AlikeFrom 0 bytes.toList bytes'.toList :=
  alikeFrom_of_colors h.size h'.size fun i hi => (h.pixels i hi).alike (h'.pixels i hi)

theorem Framebuffer.Alike.replace {fb fb' : Framebuffer} (h : Alike fb fb') {bytes bytes' : Bytes}
    (hbytes : AlikeFrom 0 bytes.toList bytes'.toList) :
    Checked.Related Alike (fb.replace bytes) (fb'.replace bytes') := by
  have hsize : bytes'.size = bytes.size := hbytes.length
  rw [Framebuffer.replace, Framebuffer.replace, hsize, h.data_size]
  split_ifs with hfits
  · refine .ok ⟨⟨?_, ?_⟩, h.size, hbytes⟩
    · exact hfits.trans h.wellFormed.data_size
    · exact hfits ▸ h.wellFormed.data_size_lt
  · exact .error _

namespace CommandLine

open Usb (Bus Handle)

variable {π : Type} [Usb.Pipe π]

def SameBus (run run' : Run π) : Prop := run'.bus = run.bus

theorem withSession_sameBus {settings : Settings} {bus : Bus π}
    {next next' : Session (Frame (Handle π)) → Checked (Run π)}
    (h : ∀ frame s, openFrame settings bus = .ok frame → startSession settings frame = .ok s →
      Checked.Related SameBus (next s) (next' s)) :
    (withSession settings bus next').bus = (withSession settings bus next).bus := by
  unfold withSession
  cases hopen : openFrame settings bus with
  | error run => rfl
  | ok frame =>
    dsimp only
    cases hstart : startSession settings frame with
    | error cause => rfl
    | ok s =>
      have hnext := h frame s hopen hstart
      dsimp only [bind, Except.bind]
      generalize next s = r at hnext ⊢
      generalize next' s = r' at hnext ⊢
      cases hnext with
      | error cause => exact Eq.refl (abandon frame cause).bus
      | ok same => exact same

theorem watch_once_bus (decode : Decoder) (settings : Settings) (files : Files) (path : String)
    {interval : UInt64} (hinterval : interval ≠ 0) (bus : Bus π) :
    (watch decode settings files path interval 1 bus).bus =
      (paint decode settings files path bus).bus := by
  rw [watch, if_neg hinterval, paint]
  refine withSession_sameBus ?_
  intro frame s hopen hstart
  change Checked.Related SameBus _ ((watchOnce decode files path s >>= pure) >>= fun s =>
    pure (.closing (Locator.close s.screen) []))
  rw [bind_pure, watchOnce]
  cases decode files path with
  | none =>
    refine .ok ?_
    exact (closing_bus _ _ _).trans (Locator.close_eq_drop s.screen)
  | some picture =>
    dsimp only
    cases push s picture with
    | error cause => exact .error cause
    | ok painted =>
      refine .ok ?_
      exact (closing_bus _ _ _).trans (finish_bus painted []).symm

theorem push_alike {s : Session (Frame (Handle π))} {fb : Framebuffer}
    (hfb : s.framebuffer = some fb) (wf : fb.WellFormed) (picture picture' : Picture)
    (h : AlikeFrom 0 (picture fb.width.toNat fb.height.toNat).toList
      (picture' fb.width.toNat fb.height.toNat).toList) :
    Checked.Related Session.SameView (push s picture) (push s picture') := by
  have hview : Session.Indistinct s s := by
    refine ⟨rfl, rfl, ?_⟩
    rw [hfb]
    exact .some (.refl wf)
  rw [push, push, hfb]
  refine ((Framebuffer.Alike.refl wf).replace h).bind ?_
  intro drawn drawn' halike
  exact (hview.with_framebuffer halike).update 0 0 fb.width fb.height

theorem clear_bus (decode : Decoder) (settings : Settings) (files : Files) {path text : String}
    {color : Color} {picture : Picture} (hcolor : Color.ofHex? text = some color)
    (hpicture : decode files path = some picture) (bus : Bus π)
    (huniform : ∀ frame, openFrame settings bus = .ok frame →
      Uniform color (frame.width.toNat * frame.height.toNat)
        (picture frame.width.toNat frame.height.toNat)) :
    (clear settings text bus).bus = (paint decode settings files path bus).bus := by
  simp only [clear, hcolor, paint, hpicture]
  refine withSession_sameBus ?_
  intro frame s hopen hstart
  obtain ⟨fb, fresh, hfresh, hs⟩ := startSession_fresh settings frame
  cases hstart.symm.trans hfresh
  have hfb : s.framebuffer = some fb := by rw [hs.session]
  have hwidth : fb.width.toNat = frame.width.toNat := by rw [hs.width, UInt16.toNat_toUInt32]
  have hheight : fb.height.toNat = frame.height.toNat := by rw [hs.height, UInt16.toNat_toUInt32]
  refine (push_alike hfb hs.allocated picture (plain color) ?_).bind ?_
  · rw [hwidth, hheight]
    exact (huniform frame hopen).alike (uniform_plain color _ _)
  · rintro painted painted' ⟨-, hview⟩
    refine .ok ?_
    rw [SameBus, finish_bus_eq_drop, finish_bus_eq_drop, hview.screen]

/-- Whatever happens to the bus on the way, a command line that watches an image file and is
interrupted after one look leaves the bus that painting the image leaves, and so does one that
clears the panel to the only colour of the image. -/
theorem painting_agrees (decode : Decoder) (files : Files) (looks : Nat) (bus : Bus π)
    {painting : List String} {config device : Option String} {path : String}
    (hpaint : parse painting = some (.run ⟨config, device, .paint path⟩)) :
    (∀ (watching : List String) (interval : Option UInt64),
      parse watching = some (.run ⟨config, device, .watch path interval⟩) →
        (runLineWith decode watching files 1 bus).2 =
          (runLineWith decode painting files looks bus).2) ∧
    ∀ (clearing : List String) (text : String) (color : Color) (picture : Picture),
      parse clearing = some (.run ⟨config, device, .clear text⟩) →
      Color.ofHex? text = some color → decode files path = some picture →
      (∀ settings frame, settingsOf files ⟨config, device, .paint path⟩ = .ok settings →
        openFrame settings bus = .ok frame → Uniform color (frame.width.toNat * frame.height.toNat)
          (picture frame.width.toNat frame.height.toNat)) →
        (runLineWith decode clearing files looks bus).2 =
          (runLineWith decode painting files looks bus).2 := by
  refine ⟨?watch, ?clear⟩
  case watch =>
    intro watching interval hwatch
    have hinterval := interval_ne_zero_of_parse hwatch
    simp only [runLineWith, hpaint, hwatch, run]
    have hsame : settingsOf files ⟨config, device, .watch path interval⟩ =
        settingsOf files ⟨config, device, .paint path⟩ := rfl
    rw [hsame]
    cases hsettings : settingsOf files ⟨config, device, .paint path⟩ with
    | error failure => rfl
    | ok settings =>
      refine watch_once_bus decode settings files path ?_ bus
      cases interval with
      | none => exact watchInterval_ne_zero hsettings
      | some interval => exact fun hzero => hinterval (congrArg some hzero)
  case clear =>
    intro clearing text color picture hclear hcolor hpicture huniform
    simp only [runLineWith, hpaint, hclear, run]
    have hsame : settingsOf files ⟨config, device, .clear text⟩ =
        settingsOf files ⟨config, device, .paint path⟩ := rfl
    rw [hsame]
    cases hsettings : settingsOf files ⟨config, device, .paint path⟩ with
    | error failure => rfl
    | ok settings =>
      exact clear_bus decode settings files hcolor hpicture bus
        fun frame hopen => huniform settings frame hsettings hopen

def redFile : Files := fun path =>
  if path = "red.ppm" then
    .ok #[0x50, 0x36, 0x20, 0x31, 0x20, 0x31, 0x20, 0x32, 0x35, 0x35, 0x0A, 0xFF, 0, 0]
  else .error .missing

/-- A bus with one frame. Its panel of one pixel fails to take a picture, and is not released at the
first try. -/
def onePixel : Bus Usb.Script where
  devices := [{
    vendor := 0x1908
    product := 0x0102
    releaseError := some .busy
    pipe := { reads :=
      [.ok #[1, 0, 1, 0, 0], .ok #[0x55, 0x53, 0x42, 0x53, 0, 0, 0, 0, 0, 0, 0, 0, 0]] } }]

theorem painting_agrees_red_pixel :
    (runLineWith picture? ["watch", "red.ppm", "--interval", "20"] redFile 1 onePixel).2 =
      (runLineWith picture? ["show", "red.ppm"] redFile 1 onePixel).2 ∧
    (runLineWith picture? ["clear", "--color", "#FF0000"] redFile 1 onePixel).2 =
      (runLineWith picture? ["show", "red.ppm"] redFile 1 onePixel).2 := by
  obtain ⟨hwatch, hclear⟩ := painting_agrees picture? redFile 1 onePixel
    (show parse ["show", "red.ppm"] = some (.run ⟨none, none, .paint "red.ppm"⟩) by decide +kernel)
  have hread : (Image.load? redFile "red.ppm").map (fun image =>
      (image.width, image.height, image.samples)) = some (1, 1, #[255, 0, 0]) := by decide +kernel
  obtain ⟨⟨width, height, samples⟩, himage, hparts⟩ := Option.map_eq_some_iff.1 hread
  cases hparts
  refine ⟨hwatch _ (some 20) (by decide +kernel), ?_⟩
  refine hclear _ "#FF0000" (.solid 255 0 0) _ (by decide +kernel) (by decide +kernel)
    (congrArg (Option.map Image.scaled) himage) ?_
  intro settings frame _ _
  refine Image.uniform_scaled Nat.one_ne_zero Nat.one_ne_zero ?_ _ _
  intro x hx y hy
  cases Nat.lt_one_iff.1 hx
  cases Nat.lt_one_iff.1 hy
  exact ⟨rfl, rfl, rfl⟩

end CommandLine
end PictureFrame
