import Mathlib.Data.List.Forall2
import PictureFrame.Proofs.Session.Run

set_option autoImplicit false

/-!
# Only the top bits of a colour are observable

Two clients that draw at the same places, in colours with the same top bits, cannot be told apart by
their flushes, by what is sent or by the display. The low bits and the alpha of a framebuffer are
read nowhere but in `Color.packed`, which drops them.
-/
namespace PictureFrame

structure Color.Alike (c c' : Color) : Prop where
  red : c'.red >>> 3 = c.red >>> 3
  green : c'.green >>> 2 = c.green >>> 2
  blue : c'.blue >>> 3 = c.blue >>> 3

theorem Color.Alike.packed_eq {c c' : Color} (h : c.Alike c') : c'.packed = c.packed := by
  rw [packed, packed, rgb565, rgb565, h.red, h.green, h.blue]

/-- Two bytes for one place of a framebuffer's data, with the same top bits of the component that is
kept there. The fourth component of a pixel is its alpha, which has none. -/
def AlikeAt (place : Nat) (b b' : UInt8) : Prop :=
  match place % 4 with
  | 0 | 2 => b' >>> 3 = b >>> 3
  | 1 => b' >>> 2 = b >>> 2
  | _ => True

theorem AlikeAt.refl (place : Nat) (b : UInt8) : AlikeAt place b b := by
  unfold AlikeAt
  split <;> trivial

theorem alikeAt_red {place : Nat} {b b' : UInt8} (h : place % 4 = 0) :
    AlikeAt place b b' ↔ b' >>> 3 = b >>> 3 := by
  simp only [AlikeAt, h]

theorem alikeAt_green {place : Nat} {b b' : UInt8} (h : place % 4 = 1) :
    AlikeAt place b b' ↔ b' >>> 2 = b >>> 2 := by
  simp only [AlikeAt, h]

theorem alikeAt_blue {place : Nat} {b b' : UInt8} (h : place % 4 = 2) :
    AlikeAt place b b' ↔ b' >>> 3 = b >>> 3 := by
  simp only [AlikeAt, h]

theorem alikeAt_alpha {place : Nat} (h : place % 4 = 3) (b b' : UInt8) : AlikeAt place b b' := by
  simp only [AlikeAt, h]

structure AlikeFrom (start : Nat) (bytes bytes' : List UInt8) : Prop where
  length : bytes'.length = bytes.length
  bytes : ∀ i b b', bytes[i]? = some b → bytes'[i]? = some b' → AlikeAt (start + i) b b'

theorem Color.Alike.toBytes {c c' : Color} (h : c.Alike c') {start : Nat} (hstart : start % 4 = 0) :
    AlikeFrom start c.toBytes.toList c'.toBytes.toList := by
  refine ⟨rfl, ?_⟩
  intro i b b' hb hb'
  match i with
  | 0 =>
    cases hb
    cases hb'
    exact (alikeAt_red hstart).2 h.red
  | 1 =>
    cases hb
    cases hb'
    exact (alikeAt_green (by omega)).2 h.green
  | 2 =>
    cases hb
    cases hb'
    exact (alikeAt_blue (by omega)).2 h.blue
  | 3 => exact alikeAt_alpha (by omega) b b'
  | i + 4 => cases hb

namespace Framebuffer

/-- The framebuffers have one size and differ in low bits and alpha alone. -/
structure Alike (fb fb' : Framebuffer) : Prop where
  wellFormed : fb.WellFormed
  size : fb'.width = fb.width ∧ fb'.height = fb.height
  data : AlikeFrom 0 fb.data.toList fb'.data.toList

variable {fb fb' : Framebuffer}

theorem Alike.refl (wf : fb.WellFormed) : Alike fb fb := by
  refine ⟨wf, ⟨rfl, rfl⟩, rfl, ?_⟩
  intro i b b' hb hb'
  cases hb.symm.trans hb'
  exact .refl _ _

theorem Alike.data_size (h : Alike fb fb') : fb'.data.size = fb.data.size :=
  h.data.length

theorem Alike.wellFormed' (h : Alike fb fb') : fb'.WellFormed := by
  refine ⟨?_, ?_⟩
  · rw [h.data_size, h.size.1, h.size.2]
    exact h.wellFormed.data_size
  · rw [h.data_size]
    exact h.wellFormed.data_size_lt

theorem Alike.getD (h : Alike fb fb') (i : Nat) :
    AlikeAt i (fb.data[i]?.getD 0) (fb'.data[i]?.getD 0) := by
  by_cases hi : i < fb.data.size
  · have hi' : i < fb'.data.size := by rwa [h.data_size]
    have hbytes := h.data.bytes i fb.data[i] fb'.data[i] (by simp [hi]) (by simp [hi'])
    rw [Nat.zero_add] at hbytes
    rwa [Array.getElem?_eq_getElem hi, Array.getElem?_eq_getElem hi']
  · rw [Array.getElem?_eq_none (by omega), Array.getElem?_eq_none (by rw [h.data_size]; omega)]
    exact .refl _ _

theorem Alike.color (h : Alike fb fb') (x y : Nat) : (fb.color x y).Alike (fb'.color x y) := by
  have hplace : fb'.place x y = fb.place x y := by rw [place, place, h.size.1]
  have hfirst : fb.place x y % 4 = 0 := Nat.mul_mod_left _ _
  rw [Framebuffer.color, Framebuffer.color, hplace]
  exact ⟨(alikeAt_red hfirst).1 (h.getD _), (alikeAt_green (by omega)).1 (h.getD _),
    (alikeAt_blue (by omega)).1 (h.getD _)⟩

theorem Alike.written {start : Nat} {bytes bytes' : List UInt8} {after after' : Framebuffer}
    (h : Alike fb fb') (hbytes : AlikeFrom start bytes bytes')
    (hw : Written fb after start bytes) (hw' : Written fb' after' start bytes') :
    Alike after after' := by
  refine ⟨hw.wellFormed h.wellFormed, ?_, ?_, ?_⟩
  · rw [hw.size.1, hw.size.2, hw'.size.1, hw'.size.2]
    exact h.size
  · rw [Array.length_toList, Array.length_toList, hw.data_size, hw'.data_size, h.data_size]
  · intro i b b' hb hb'
    rw [Nat.zero_add]
    rw [Array.getElem?_toList, hw.getElem?] at hb
    rw [Array.getElem?_toList, hw'.getElem?, hbytes.length] at hb'
    by_cases hin : start ≤ i ∧ i < start + bytes.length
    · rw [if_pos hin] at hb hb'
      have hplace : start + (i - start) = i := by omega
      rw [← hplace]
      exact hbytes.bytes _ b b' hb hb'
    · rw [if_neg hin] at hb hb'
      have hold := h.data.bytes i b b' (by rwa [Array.getElem?_toList])
        (by rwa [Array.getElem?_toList])
      rwa [Nat.zero_add] at hold

theorem Alike.write {start : Nat} {bytes bytes' : List UInt8} (h : Alike fb fb')
    (hbytes : AlikeFrom start bytes bytes') :
    Checked.Related Alike (fb.write start bytes) (fb'.write start bytes') := by
  have hfits : start + bytes'.length ≤ fb'.data.size ↔ start + bytes.length ≤ fb.data.size := by
    rw [hbytes.length, h.data_size]
  by_cases hin : start + bytes.length ≤ fb.data.size
  · rw [Framebuffer.write, Framebuffer.write, if_pos hin, if_pos (hfits.2 hin)]
    exact .ok (h.written hbytes (write_eq_ok (if_pos hin)) (write_eq_ok (if_pos (hfits.2 hin))))
  · rw [Framebuffer.write, Framebuffer.write, if_neg hin, if_neg fun hin' => hin (hfits.1 hin')]
    exact .error _

theorem Alike.setPixel {c c' : Color} (h : Alike fb fb') (hcolor : c.Alike c') (x y : UInt32) :
    Checked.Related Alike (fb.setPixel x y c) (fb'.setPixel x y c') := by
  have hplace : fb'.place x.toNat y.toNat = fb.place x.toNat y.toNat := by
    rw [place, place, h.size.1]
  rw [h.wellFormed.setPixel_eq, h.wellFormed'.setPixel_eq, h.size.1, h.size.2, hplace]
  split_ifs
  · exact h.write (hcolor.toBytes (Nat.mul_mod_left _ _))
  · exact .ok h

end Framebuffer

namespace Session

theorem setPixel_alike (d : Display) (x y : UInt32) {c c' : Color} (h : c.Alike c') :
    d.setPixel x y c' = d.setPixel x y c := by
  rw [Display.setPixel, Display.setPixel, h.packed_eq]

variable {fb fb' : Framebuffer}

theorem copyPixel_alike (h : fb.Alike fb') : copyPixel fb' = copyPixel fb := by
  funext d p
  rw [copyPixel, copyPixel, h.wellFormed.pixel_eq, h.wellFormed'.pixel_eq, h.size.1, h.size.2]
  split_ifs
  · exact setPixel_alike d p.1 p.2 (h.color _ _)
  · rfl

theorem copyRegion_alike (h : fb.Alike fb') (d : Display) (x y width height : UInt32) :
    copyRegion fb' d x y width height = copyRegion fb d x y width height := by
  rw [copyRegion, copyRegion, copyPixel_alike h, positions, positions, h.size.1, h.size.2]

variable {σ : Type} {s s' : Session σ}

/-- The sessions show the same on the same screen, and their clients have drawn alike. -/
structure Indistinct (s s' : Session σ) : Prop where
  screen : s'.screen = s.screen
  display : s'.display = s.display
  framebuffer : Option.Rel Framebuffer.Alike s.framebuffer s'.framebuffer

def SameView {α : Type} (r r' : α × Session σ) : Prop := r'.1 = r.1 ∧ Indistinct r.2 r'.2

theorem Indistinct.with_framebuffer (h : Indistinct s s') (hfb : fb.Alike fb') :
    Indistinct { s with framebuffer := some fb } { s' with framebuffer := some fb' } :=
  ⟨h.screen, h.display, .some hfb⟩

theorem Indistinct.edit (h : Indistinct s s') {change change' : Framebuffer → Checked Framebuffer}
    (hchange : ∀ fb fb', fb.Alike fb' →
      Checked.Related Framebuffer.Alike (change fb) (change' fb')) :
    Checked.Related Indistinct (s.edit change) (s'.edit change') := by
  have hfb := h.framebuffer
  unfold Session.edit
  generalize s.framebuffer = old at hfb ⊢
  generalize s'.framebuffer = old' at hfb ⊢
  cases hfb with
  | none => exact .ok h
  | some alike => exact (hchange _ _ alike).bind fun _ _ hnew => .ok (h.with_framebuffer hnew)

variable [Screen σ]

theorem Indistinct.update (h : Indistinct s s') (x y width height : UInt32) :
    Checked.Related SameView (s.update x y width height) (s'.update x y width height) := by
  obtain ⟨screen, display, framebuffer⟩ := s
  obtain ⟨screen', display', framebuffer'⟩ := s'
  obtain ⟨rfl, rfl, hfb⟩ := h
  cases hfb with
  | none => exact .ok ⟨rfl, rfl, rfl, .none⟩
  | some alike =>
    rw [Session.update, Session.update, copyRegion_alike alike]
    refine (Checked.Related.refl (fun _ => rfl) _).bind ?_
    rintro copied _ rfl
    refine (Checked.Related.refl (fun _ => rfl) _).bind ?_
    rintro ⟨outcome, d, left⟩ _ rfl
    exact .ok ⟨rfl, rfl, rfl, .some alike⟩

inductive Op.Alike : Op → Op → Prop
  | allocate (width height : UInt32) : Alike (.allocate width height) (.allocate width height)
  | setPixel (x y : UInt32) {c c' : Color} (colors : c.Alike c') :
      Alike (.setPixel x y c) (.setPixel x y c')
  | write (start : Nat) {bytes bytes' : List UInt8} (alike : AlikeFrom start bytes bytes') :
      Alike (.write start bytes) (.write start bytes')
  | update (x y width height : UInt32) :
      Alike (.update x y width height) (.update x y width height)

theorem Indistinct.perform (h : Indistinct s s') {op op' : Op} (hop : op.Alike op') :
    Checked.Related SameView (s.perform op) (s'.perform op') := by
  cases hop with
  | allocate width height =>
    rw [Session.perform, Session.perform, Session.allocate, Session.allocate]
    cases hnew : Framebuffer.new width height with
    | error cause => exact .error cause
    | ok fb => exact .ok ⟨rfl, h.with_framebuffer (.refl (Framebuffer.new_eq_ok hnew).1)⟩
  | setPixel x y colors =>
    refine (h.edit fun _ _ alike => alike.setPixel colors x y).bind ?_
    exact fun _ _ hnext => .ok ⟨rfl, hnext⟩
  | write start bytes =>
    refine (h.edit fun _ _ alike => alike.write bytes).bind ?_
    exact fun _ _ hnext => .ok ⟨rfl, hnext⟩
  | update x y width height =>
    refine (h.update x y width height).bind ?_
    rintro ⟨outcome, next⟩ ⟨_, next'⟩ ⟨rfl, hnext⟩
    exact .ok ⟨rfl, hnext⟩

theorem Indistinct.run (h : Indistinct s s') {ops ops' : List Op}
    (hops : List.Forall₂ Op.Alike ops ops') :
    Checked.Related SameView (run ops s) (run ops' s') := by
  induction hops generalizing s s' with
  | nil => exact .ok ⟨rfl, h⟩
  | cons hop hops ih =>
    refine (h.perform hop).bind ?_
    rintro ⟨o, next⟩ ⟨_, next'⟩ ⟨rfl, hnext⟩
    refine (ih hnext).bind ?_
    rintro ⟨outcomes, last⟩ ⟨_, last'⟩ ⟨rfl, hlast⟩
    exact .ok ⟨rfl, hlast⟩

omit [Screen σ] in
theorem Indistinct.start (screen : σ) (d : Display) :
    Indistinct (Session.start screen d) (Session.start screen d) :=
  ⟨rfl, rfl, .none⟩

/-- After each operation two such clients have stopped for the same cause, or have seen the same
outcomes, sent the same pictures and got the same answers, and their displays are equal. -/
theorem run_of_top_bits (screen : σ) (d : Display) {ops ops' : List Op}
    (hops : List.Forall₂ Op.Alike ops ops') (n : Nat) :
    (∃ cause, run (ops.take n) (start (⟨screen, []⟩ : Screen.Recorded σ) d) = .error cause ∧
      run (ops'.take n) (start (⟨screen, []⟩ : Screen.Recorded σ) d) = .error cause) ∨
    ∃ (outcomes : List Flush) (s s' : Session (Screen.Recorded σ)),
      run (ops.take n) (start ⟨screen, []⟩ d) = .ok (outcomes, s) ∧
      run (ops'.take n) (start ⟨screen, []⟩ d) = .ok (outcomes, s') ∧
      s'.screen.blits = s.screen.blits ∧ s'.screen.screen = s.screen.screen ∧
      s'.display = s.display := by
  have hrelated := (Indistinct.start (⟨screen, []⟩ : Screen.Recorded σ) d).run
    (List.forall₂_take n hops)
  generalize run (ops.take n) (start (⟨screen, []⟩ : Screen.Recorded σ) d) = r at hrelated ⊢
  generalize run (ops'.take n) (start (⟨screen, []⟩ : Screen.Recorded σ) d) = r' at hrelated ⊢
  cases hrelated with
  | error cause => exact .inl ⟨cause, rfl, rfl⟩
  | @ok r r' same =>
    obtain ⟨outcomes, s⟩ := r
    obtain ⟨_, s'⟩ := r'
    obtain ⟨rfl, hview⟩ := same
    exact .inr ⟨_, s, s', rfl, rfl, by rw [hview.screen], by rw [hview.screen],
      hview.display⟩

theorem run_of_top_bits_two_pixels : ∃ s s' : Session (Screen.Recorded Screen.Script),
    run [.allocate 2 1, .setPixel 1 0 ⟨255, 0, 0, 255⟩, .update 0 0 2 1, .write 0 [8, 4],
        .update 0 0 1 1] (start ⟨⟨[.error (.transfer .data .timeout), .ok 3]⟩, []⟩
          (.withCanvas 2 1 2 1)) = .ok ([.dropped ⟨0, 0, 2, 1⟩, .sent ⟨0, 0, 1, 1⟩ 3], s) ∧
      run [.allocate 2 1, .setPixel 1 0 ⟨248, 3, 7, 0⟩, .update 0 0 2 1, .write 0 [15, 7],
        .update 0 0 1 1] (start ⟨⟨[.error (.transfer .data .timeout), .ok 3]⟩, []⟩
          (.withCanvas 2 1 2 1)) = .ok ([.dropped ⟨0, 0, 2, 1⟩, .sent ⟨0, 0, 1, 1⟩ 3], s') ∧
      s'.screen.blits = s.screen.blits ∧ s'.display = s.display := by
  have hcolor : (⟨255, 0, 0, 255⟩ : Color).Alike ⟨248, 3, 7, 0⟩ := ⟨rfl, rfl, rfl⟩
  have hbytes : AlikeFrom 0 [8, 4] [15, 7] := by
    refine ⟨rfl, ?_⟩
    intro i b b' hb hb'
    match i with
    | 0 =>
      cases hb
      cases hb'
      exact (alikeAt_red rfl).2 rfl
    | 1 =>
      cases hb
      cases hb'
      exact (alikeAt_green rfl).2 rfl
    | i + 2 => cases hb
  have hrun : ∃ s : Session (Screen.Recorded Screen.Script),
      run [.allocate 2 1, .setPixel 1 0 ⟨255, 0, 0, 255⟩, .update 0 0 2 1, .write 0 [8, 4],
        .update 0 0 1 1] (start ⟨⟨[.error (.transfer .data .timeout), .ok 3]⟩, []⟩
          (.withCanvas 2 1 2 1)) = .ok ([.dropped ⟨0, 0, 2, 1⟩, .sent ⟨0, 0, 1, 1⟩ 3], s) :=
    ⟨_, rfl⟩
  obtain ⟨s, hs⟩ := hrun
  have hview := run_of_top_bits (⟨[.error (.transfer .data .timeout), .ok 3]⟩ : Screen.Script)
    (.withCanvas 2 1 2 1) (.cons (.allocate 2 1) (.cons (.setPixel 1 0 hcolor)
      (.cons (.update 0 0 2 1) (.cons (.write 0 hbytes) (.cons (.update 0 0 1 1) .nil))))) 5
  simp only [List.take] at hview
  rcases hview with ⟨cause, hstop, -⟩ | ⟨outcomes, t, s', ht, hs', hblits, -, hdisplay⟩
  · cases hs.symm.trans hstop
  · cases hs.symm.trans ht
    exact ⟨s, s', hs, hs', hblits, hdisplay⟩

end Session
end PictureFrame
