import PictureFrame.Proofs.Session.Run

set_option autoImplicit false

/-!
# What the panel shows during a session

A panel takes the payload of a blit that is answered with a code and may show anything in the
rectangle of one that fails. After every operation of a session each pixel of the panel shows the
stored value, is still in the dirty box, or was last sent by a blit that failed. The last case is
real: a dropped picture is not sent again.
-/
namespace PictureFrame

/-- A screen with a panel of pixels behind it, whose content before the first blit is anything. -/
class PanelScreen (σ : Type) extends Screen σ where
  shown : σ → Nat → Nat → Packed
  shown_of_ok : ∀ (pixels : Bytes) (rect : Rect) (screen : σ) (code : UInt8),
    pixels.size = rect.byteLength → (blit pixels rect screen).1 = .ok code →
      ∀ x y, rect.Contains x y → shown (blit pixels rect screen).2 x y = rect.pixelIn pixels x y
  shown_outside : ∀ (pixels : Bytes) (rect : Rect) (screen : σ) (x y : Nat),
    ¬ rect.Contains x y → shown (blit pixels rect screen).2 x y = shown screen x y

namespace Screen

inductive Reaction
  | shows (code : UInt8)
  /-- The rectangle is left with the given pixels. -/
  | fails (fault : Fault) (left : Nat → Nat → Packed)

structure Simulated where
  picture : Nat → Nat → Packed
  reactions : List Reaction

namespace Simulated

def overwrite (panel : Simulated) (rect : Rect) (pixel : Nat → Nat → Packed) : Nat → Nat → Packed :=
  fun x y => if rect.Contains x y then pixel x y else panel.picture x y

def blit (pixels : Bytes) (rect : Rect) : StateM Simulated (Except Fault UInt8) := fun panel =>
  match panel.reactions.headD (.shows 0) with
  | .shows code => (.ok code, ⟨panel.overwrite rect (rect.pixelIn pixels), panel.reactions.tail⟩)
  | .fails fault left => (.error fault, ⟨panel.overwrite rect left, panel.reactions.tail⟩)

instance : PanelScreen Simulated where
  blit := blit
  shown := picture
  shown_of_ok pixels rect panel code _ h x y hxy := by
    unfold blit at h ⊢
    generalize panel.reactions.headD (.shows 0) = reaction at h ⊢
    cases reaction with
    | shows code => exact if_pos hxy
    | fails fault left => cases h
  shown_outside pixels rect panel x y hxy := by
    unfold blit
    cases panel.reactions.headD (.shows 0) with
    | shows code => exact if_neg hxy
    | fails fault left => exact if_neg hxy

end Simulated

structure Logged (σ : Type) where
  screen : σ
  log : List (Rect × Except Fault UInt8)

instance {σ : Type} [PanelScreen σ] : PanelScreen (Logged σ) where
  blit pixels rect := fun s =>
    let (answer, screen) := Screen.blit pixels rect s.screen
    (answer, ⟨screen, s.log ++ [(rect, answer)]⟩)
  shown s := PanelScreen.shown s.screen
  shown_of_ok pixels rect s := PanelScreen.shown_of_ok pixels rect s.screen
  shown_outside pixels rect s := PanelScreen.shown_outside pixels rect s.screen

end Screen

def Flush.rect? : Flush → Option Rect
  | .clean => none
  | .sent rect _ => some rect
  | .dropped rect => some rect

theorem Flush.rect?_ofAnswer (rect : Rect) (answer : Except Fault UInt8) :
    (Flush.ofAnswer rect answer).rect? = some rect := by
  cases answer <;> rfl

namespace Session

/-- The last blit whose rectangle contained the position failed. -/
def LastBlitDropped (outcomes : List Flush) (x y : Nat) : Prop :=
  ∃ before rect after, outcomes = before ++ .dropped rect :: after ∧ rect.Contains x y ∧
    ∀ outcome ∈ after, ∀ r, outcome.rect? = some r → ¬ r.Contains x y

theorem lastBlitDropped_append {outcomes : List Flush} {x y : Nat} (o : Option Flush)
    (h : LastBlitDropped outcomes x y)
    (ho : ∀ outcome, o = some outcome → ∀ r, outcome.rect? = some r → ¬ r.Contains x y) :
    LastBlitDropped (outcomes ++ o.toList) x y := by
  obtain ⟨before, rect, after, heq, hrect, hafter⟩ := h
  refine ⟨before, rect, after ++ o.toList, by rw [heq]; simp, hrect, ?_⟩
  intro outcome hmem
  rcases List.mem_append.1 hmem with hmem | hmem
  · exact hafter outcome hmem
  · exact ho outcome (Option.mem_toList.1 hmem)

theorem lastBlitDropped_now (outcomes : List Flush) {rect : Rect} {x y : Nat}
    (h : rect.Contains x y) : LastBlitDropped (outcomes ++ [.dropped rect]) x y :=
  ⟨outcomes, rect, [], rfl, h, fun _ hmem => absurd hmem List.not_mem_nil⟩

variable {σ : Type} [PanelScreen σ]

/-- Every pixel of the panel shows the stored value, or is about to be sent, or was dropped. -/
def Coherent (screen : σ) (d : Display) (outcomes : List Flush) : Prop :=
  ∀ x y, d.OnPanel x y → PanelScreen.shown screen x y = d.grid x y ∨ d.dirty.Contains x y ∨
    LastBlitDropped outcomes x y

theorem Coherent.tracks {screen : σ} {d d' : Display} {outcomes : List Flush}
    (h : Coherent screen d outcomes) (ht : Display.Tracks d d') : Coherent screen d' outcomes := by
  intro x y hxy
  have hold := (ht.onPanel x y).1 hxy
  rcases h x y hold with heq | hdirty | hdropped
  · by_cases hne : d'.grid x y = d.grid x y
    · exact .inl (heq.trans hne.symm)
    · exact .inr (.inl (ht.dirty_of_ne x y hold hne))
  · exact .inr (.inl (ht.dirty_of_dirty x y hdirty))
  · exact .inr (.inr hdropped)

theorem Coherent.clean {screen : σ} {d : Display} {outcomes : List Flush}
    (h : Coherent screen d outcomes) : Coherent screen d (outcomes ++ [.clean]) := by
  intro x y hxy
  rcases h x y hxy with heq | hdirty | hdropped
  · exact .inl heq
  · exact .inr (.inl hdirty)
  · refine .inr (.inr (lastBlitDropped_append (some .clean) hdropped ?_))
    intro outcome houtcome r hr
    cases houtcome
    cases hr

theorem Coherent.sent {screen : σ} {d : Display} {outcomes : List Flush}
    (h : Coherent screen d outcomes) (wf : d.WellFormed)
    (hd : d.dirty.Within d.width.toNat d.height.toNat) {answer : Except Fault UInt8} {left : σ}
    (hblit : Screen.blit (d.picture d.dirty.rect) d.dirty.rect screen = (answer, left)) :
    Coherent left d.flushed (outcomes ++ [.ofAnswer d.dirty.rect answer]) := by
  intro x y hxy
  have hanswer : (Screen.blit (d.picture d.dirty.rect) d.dirty.rect screen).1 = answer := by
    rw [hblit]
  have hleft : (Screen.blit (d.picture d.dirty.rect) d.dirty.rect screen).2 = left := by
    rw [hblit]
  -- Inside, the answer decides. Outside, the pixel was not dirty and the screen leaves it alone.
  by_cases hin : d.dirty.rect.Contains x y
  · cases answer with
    | ok code =>
      left
      have hsize := wf.picture_size hd.rect_inside
      have hshown := PanelScreen.shown_of_ok _ _ _ code hsize hanswer x y hin
      rw [← hleft, hshown, wf.pixelIn_picture hd.rect_inside hin]
      rfl
    | error fault => exact .inr (.inr (lastBlitDropped_now outcomes hin))
  · have hshown := PanelScreen.shown_outside (d.picture d.dirty.rect) d.dirty.rect screen x y hin
    rw [hleft] at hshown
    rcases h x y hxy with heq | hdirty | hdropped
    · exact .inl (hshown.trans heq)
    · exact absurd ((hd.contains_rect x y).2 hdirty) hin
    · refine .inr (.inr (lastBlitDropped_append (some _) hdropped ?_))
      intro outcome houtcome r hr
      cases houtcome
      rw [Flush.rect?_ofAnswer] at hr
      cases hr
      exact hin

theorem Step.coherent {s s' : Session σ} {op : Op} {o : Option Flush} (h : Step s op o s')
    (wf : s.WellFormed) {outcomes : List Flush} (hc : Coherent s.screen s.display outcomes) :
    Coherent s'.screen s'.display (outcomes ++ o.toList) := by
  cases h with
  | allocate | edit | idle => simpa using hc
  | early unallocated => exact hc.clean
  | clean current unchanged => exact (hc.tracks (tracks_copied wf.display _ _)).clean
  | @sent x y width height fb d answer screen current copied dirty blit =>
    subst copied
    have hcopied := copied_wellFormed wf.display fb (positions fb x y width height)
    exact (hc.tracks (tracks_copied wf.display _ _)).sent hcopied dirty blit

theorem start_coherent (screen : σ) (d : Display) :
    Coherent (start screen d).screen (start screen d).display [] := by
  intro x y hxy
  have hd : d.OnPanel x y := by
    unfold Display.OnPanel at hxy ⊢
    rwa [(start_size d screen).1, (start_size d screen).2] at hxy
  exact .inr (.inl (Display.markAll_contains hd))

theorem run_coherent_from {s₀ : Session σ} (wf : s₀.WellFormed)
    (hstart : Coherent s₀.screen s₀.display []) {ops : List Op} {outcomes : List Flush}
    {s : Session σ} (h : run ops s₀ = .ok (outcomes, s)) :
    Coherent s.screen s.display outcomes := by
  refine run_induction (P := fun _ outcomes s => Coherent s.screen s.display outcomes)
    hstart ?_ h
  intro ops outcomes s op o s' hrun hc hperform
  exact ((run_wellFormed wf hrun).step hperform).coherent (run_wellFormed wf hrun) hc

theorem run_coherent {screen : σ} {d : Display} (wf : d.WellFormed) {ops : List Op}
    {outcomes : List Flush} {s : Session σ} (h : run ops (start screen d) = .ok (outcomes, s)) :
    Coherent s.screen s.display outcomes :=
  run_coherent_from (start_wellFormed wf screen) (start_coherent screen d) h

theorem Coherent.shown {screen : σ} {d : Display} {outcomes : List Flush}
    (h : Coherent screen d outcomes) (hclean : d.dirty = .empty)
    (hsent : ∀ rect, Flush.dropped rect ∉ outcomes) {x y : Nat} (hxy : d.OnPanel x y) :
    PanelScreen.shown screen x y = d.grid x y := by
  rcases h x y hxy with heq | hdirty | hdropped
  · exact heq
  · rw [hclean] at hdirty
    exact absurd hdirty (DirtyBox.not_contains_empty x y)
  · obtain ⟨before, rect, after, heq, -, -⟩ := hdropped
    exact absurd (heq ▸ List.mem_append_right before List.mem_cons_self) (hsent rect)

/-- Of the blits whose rectangle contains the position the last one failed. -/
def LastBlitFailed (log : List (Rect × Except Fault UInt8)) (x y : Nat) : Prop :=
  ∃ before rect fault after, log = before ++ (rect, .error fault) :: after ∧ rect.Contains x y ∧
    ∀ blit ∈ after, ¬ blit.1.Contains x y

/-- Each blit is reported by one outcome, in order; the other outcomes are clean. -/
def Reported (log : List (Rect × Except Fault UInt8)) (outcomes : List Flush) : Prop :=
  log.map (fun blit => Flush.ofAnswer blit.1 blit.2) = outcomes.filter (· ≠ .clean)

theorem Step.reported {s s' : Session (Screen.Logged σ)} {op : Op} {o : Option Flush}
    (h : Step s op o s') {outcomes : List Flush} (hr : Reported s.screen.log outcomes) :
    Reported s'.screen.log (outcomes ++ o.toList) := by
  unfold Reported at hr ⊢
  cases h with
  | allocate | edit | idle => simpa using hr
  | early | clean => simpa using hr
  | @sent x y width height fb d answer screen current copied dirty blit =>
    have hlog : screen.log = s.screen.log ++ [(d.dirty.rect, answer)] := by
      cases blit
      rfl
    have hsent : Flush.ofAnswer d.dirty.rect answer ≠ .clean := by cases answer <;> exact nofun
    change screen.log.map _ = _
    rw [hlog, List.map_append, hr, Option.toList_some, List.filter_append]
    simp [hsent]

theorem run_reported {screen : σ} {d : Display} (wf : d.WellFormed) {ops : List Op}
    {outcomes : List Flush} {s : Session (Screen.Logged σ)}
    (h : run ops (start ⟨screen, []⟩ d) = .ok (outcomes, s)) : Reported s.screen.log outcomes := by
  have hstart : Reported (start (⟨screen, []⟩ : Screen.Logged σ) d).screen.log [] := rfl
  refine run_induction (P := fun _ outcomes s => Reported s.screen.log outcomes) hstart ?_ h
  intro ops outcomes s op o s' hrun hr hperform
  exact ((run_wellFormed (start_wellFormed wf _) hrun).step hperform).reported hr

theorem LastBlitDropped.failed {log : List (Rect × Except Fault UInt8)} {outcomes : List Flush}
    {x y : Nat} (h : LastBlitDropped outcomes x y) (hr : Reported log outcomes) :
    LastBlitFailed log x y := by
  obtain ⟨before, rect, after, rfl, hrect, hafter⟩ := h
  unfold Reported at hr
  rw [List.filter_append, List.filter_cons_of_pos (by simp)] at hr
  obtain ⟨first, rest, rfl, -, hrest⟩ := List.map_eq_append_iff.1 hr
  obtain ⟨⟨r, answer⟩, later, rfl, hblit, hlater⟩ := List.map_eq_cons_iff.1 hrest
  cases answer with
  | ok code => cases hblit
  | error fault =>
    cases hblit
    refine ⟨first, r, fault, later, rfl, hrect, ?_⟩
    intro blit hmem
    have houtcome : Flush.ofAnswer blit.1 blit.2 ∈ after.filter (· ≠ .clean) :=
      hlater ▸ List.mem_map_of_mem hmem
    exact hafter _ (List.mem_filter.1 houtcome).1 _ (Flush.rect?_ofAnswer _ _)

/-- After every operation the session goes on, and each pixel of the panel shows the stored value
unless it is dirty or its last blit failed; without a dropped picture an update leaves no
difference. -/
theorem panel_coherent {d : Display} (hd : d.Reachable) (screen : σ) {ops : List Op}
    {outcomes : List Flush} {s : Session (Screen.Logged σ)}
    (h : run ops (start ⟨screen, []⟩ d) = .ok (outcomes, s)) :
    (∀ op : Op, op.Legal s.framebuffer → ∃ o s', s.perform op = .ok (o, s')) ∧
    Reported s.screen.log outcomes ∧
    (∀ x y : UInt16, x < d.width → y < d.height → ∃ p, s.display.pixel x y = .ok (some p) ∧
      (PanelScreen.shown s.screen x.toNat y.toNat = p ∨
        s.display.dirty.Contains x.toNat y.toNat ∨
          LastBlitFailed s.screen.log x.toNat y.toNat)) ∧
    ∀ x y width height, s.framebuffer ≠ none →
      ∃ outcome s', s.update x y width height = .ok (outcome, s') ∧
        ((∀ rect, Flush.dropped rect ∉ outcomes ++ [outcome]) →
          ∀ u v : UInt16, u < d.width → v < d.height →
            s'.display.pixel u v = .ok (some (PanelScreen.shown s'.screen u.toNat v.toNat))) := by
  have hstart := start_wellFormed hd.wellFormed (⟨screen, []⟩ : Screen.Logged σ)
  have wf := run_wellFormed hstart h
  have hreported := run_reported hd.wellFormed h
  refine ⟨fun op hop => wf.perform_ok hop, hreported, ?_, ?_⟩
  · intro x y hx hy
    have hxy := run_onPanel hd.wellFormed h hx hy
    refine ⟨_, wf.display.pixel_eq hxy, ?_⟩
    rcases run_coherent hd.wellFormed h _ _ hxy with heq | hdirty | hdropped
    · exact .inl heq
    · exact .inr (.inl hdirty)
    · exact .inr (.inr (hdropped.failed hreported))
  · intro x y width height hfb
    obtain ⟨outcome, s', hupdate, hstep⟩ := wf.update_step x y width height
    refine ⟨outcome, s', hupdate, ?_⟩
    intro hnone u v hu hv
    have hperform : s.perform (.update x y width height) = .ok (some outcome, s') := by
      rw [perform, hupdate]
      rfl
    have hrun := run_concat h hperform
    have huv := run_onPanel hd.wellFormed hrun hu hv
    rw [(run_wellFormed hstart hrun).display.pixel_eq huv]
    rcases run_coherent hd.wellFormed hrun _ _ huv with heq | hdirty | hdropped
    · rw [heq]
    · rw [hstep.dirty_eq_empty hfb] at hdirty
      exact absurd hdirty (DirtyBox.not_contains_empty _ _)
    · obtain ⟨before, rect, after, heq, -, -⟩ := hdropped
      exact absurd (heq ▸ List.mem_append_right before List.mem_cons_self) (hnone rect)

theorem panel_coherent_two_pixels :
    (∃ s : Session (Screen.Logged Screen.Simulated),
      run [.allocate 2 1, .update 0 0 2 1, .setPixel 1 0 (.solid 255 0 0), .update 0 0 2 1]
        (start ⟨⟨fun _ _ => ⟨7, 7⟩, [.fails (.transfer .data .timeout) fun _ _ => ⟨9, 9⟩]⟩, []⟩
          (.withCanvas 2 1 2 1)) = .ok ([.dropped ⟨0, 0, 2, 1⟩, .sent ⟨1, 0, 2, 1⟩ 0], s) ∧
      ∀ x y : UInt16, x < 2 → y < 1 → ∃ p, s.display.pixel x y = .ok (some p) ∧
        (PanelScreen.shown s.screen x.toNat y.toNat = p ∨
          s.display.dirty.Contains x.toNat y.toNat ∨
            LastBlitFailed s.screen.log x.toNat y.toNat)) ∧
    ∃ s s' : Session (Screen.Logged Screen.Simulated),
      run [.allocate 2 1, .write 4 [255, 0, 0, 0]]
        (start ⟨⟨fun _ _ => ⟨7, 7⟩, [.shows 3]⟩, []⟩ (.withCanvas 2 1 2 1)) = .ok ([], s) ∧
      s.update 5 5 0 0 = .ok (.sent ⟨0, 0, 2, 1⟩ 3, s') ∧
      ∀ u v : UInt16, u < 2 → v < 1 →
        s'.display.pixel u v = .ok (some (PanelScreen.shown s'.screen u.toNat v.toNat)) := by
  constructor
  · refine Exists.imp (fun s hs => ⟨hs, (panel_coherent (.withCanvas 2 1 2 1) _ hs).2.2.1⟩) ?_
    exact ⟨_, rfl⟩
  · have hrun : ∃ s s' : Session (Screen.Logged Screen.Simulated),
        run [.allocate 2 1, .write 4 [255, 0, 0, 0]]
          (start ⟨⟨fun _ _ => ⟨7, 7⟩, [.shows 3]⟩, []⟩ (.withCanvas 2 1 2 1)) = .ok ([], s) ∧
        s.update 5 5 0 0 = .ok (.sent ⟨0, 0, 2, 1⟩ 3, s') ∧ s.framebuffer ≠ none :=
      ⟨_, _, rfl, rfl, nofun⟩
    obtain ⟨s, s', hs, hupdate, hfb⟩ := hrun
    obtain ⟨outcome, t, ht, hequal⟩ :=
      (panel_coherent (.withCanvas 2 1 2 1) _ hs).2.2.2 5 5 0 0 hfb
    rw [hupdate] at ht
    cases ht
    exact ⟨s, s', hs, hupdate, hequal (by simp)⟩

end Session
end PictureFrame
