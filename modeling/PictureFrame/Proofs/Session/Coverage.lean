import PictureFrame.Proofs.Session.Announcement
import PictureFrame.Proofs.Session.Panel

set_option autoImplicit false

namespace PictureFrame.Session

def Covers (fb : Framebuffer) (regions : List Region) (u v : Nat) : Prop :=
  u < fb.width.toNat ∧ v < fb.height.toNat ∧ ∃ r ∈ regions, r.Contains u v

variable {fb : Framebuffer} {regions others : List Region} {u v : Nat}

theorem covers_iff : Covers fb regions u v ↔
    ∃ p ∈ announced fb regions, p.1.toNat = u ∧ p.2.toNat = v := by
  simp only [mem_announced, UInt32.lt_iff_toNat_lt]
  constructor
  · intro h
    obtain ⟨hu, hv, hregion⟩ := h
    obtain ⟨column, rfl⟩ := exists_word32 hu
    obtain ⟨row, rfl⟩ := exists_word32 hv
    exact ⟨(column, row), ⟨hregion, hu, hv⟩, rfl, rfl⟩
  · intro h
    obtain ⟨p, ⟨hregion, hu, hv⟩, rfl, rfl⟩ := h
    exact ⟨hu, hv, hregion⟩

section Shows

variable {σ τ : Type} {s s' : Session σ} {t t' : Session τ}

theorem Shows.grid_of_covers (h : Shows fb regions s s') (wf : s.WellFormed)
    (hfit : OnCanvas fb s.display) (huv : s.display.OnPanel u v) (hcovers : Covers fb regions u v) :
    s'.display.grid u v = (fb.color u v).packed := by
  rw [h.pixels.grid, grid_copied wf.display fb (hfit.announced_lt regions) huv,
    if_pos (covers_iff.1 hcovers)]

theorem Shows.grid_of_not_covers (h : Shows fb regions s s') (wf : s.WellFormed)
    (hfit : OnCanvas fb s.display) (huv : s.display.OnPanel u v)
    (hcovers : ¬ Covers fb regions u v) : s'.display.grid u v = s.display.grid u v := by
  rw [h.pixels.grid, grid_copied wf.display fb (hfit.announced_lt regions) huv,
    if_neg fun hp => hcovers (covers_iff.2 hp)]

theorem Shows.size (h : Shows fb regions s s') (wf : s.WellFormed) :
    s'.display.width = s.display.width ∧ s'.display.height = s.display.height := by
  have ht := tracks_copied wf.display fb (announced fb regions)
  exact ⟨h.pixels.size.1.trans ht.size.1, h.pixels.size.2.trans ht.size.2⟩

theorem Shows.onPanel (h : Shows fb regions s s') (wf : s.WellFormed) :
    s'.display.OnPanel u v ↔ s.display.OnPanel u v := by
  rw [Display.OnPanel, Display.OnPanel, (h.size wf).1, (h.size wf).2]

theorem Shows.grid_eq (h : Shows fb regions s s') (h' : Shows fb others t t') (wf : s.WellFormed)
    (wf' : t.WellFormed) (hdisplay : t.display = s.display) (hfit : OnCanvas fb s.display)
    (hcovers : ∀ u v, Covers fb regions u v ↔ Covers fb others u v)
    (huv : s.display.OnPanel u v) : t'.display.grid u v = s'.display.grid u v := by
  have hfit' : OnCanvas fb t.display := hdisplay ▸ hfit
  have huv' : t.display.OnPanel u v := hdisplay ▸ huv
  by_cases hin : Covers fb regions u v
  · rw [h.grid_of_covers wf hfit huv hin, h'.grid_of_covers wf' hfit' huv' ((hcovers u v).1 hin)]
  · rw [h.grid_of_not_covers wf hfit huv hin, h'.grid_of_not_covers wf' hfit' huv'
      (fun hother => hin ((hcovers u v).2 hother)), hdisplay]

theorem Shows.resident_eq (h : Shows fb regions s s') (h' : Shows fb others t t')
    (wf : s.WellFormed) (wf' : t.WellFormed) (hdisplay : t.display = s.display)
    (hfit : OnCanvas fb s.display) (hcovers : ∀ u v, Covers fb regions u v ↔ Covers fb others u v) :
    t'.display.resident = s'.display.resident := by
  refine h.wellFormed.display.resident_ext h'.wellFormed.display ?_ ?_
  · rw [(h.size wf).1, (h.size wf).2, (h'.size wf').1, (h'.size wf').2, hdisplay]
    exact ⟨rfl, rfl⟩
  · intro u v huv
    exact h.grid_eq h' wf wf' hdisplay hfit hcovers ((h.onPanel wf).1 huv)

theorem Shows.pixel_of_covers (h : Shows fb regions s s') (wf : s.WellFormed)
    (hfb : s.framebuffer = some fb) (hfit : OnCanvas fb s.display) {x y : UInt16}
    (hxy : s.display.OnPanel x.toNat y.toNat) (hcovers : Covers fb regions x.toNat y.toNat) :
    ∃ color, fb.pixel x.toUInt32 y.toUInt32 = .ok (some color) ∧
      s'.display.pixel x y = .ok (some color.packed) := by
  refine ⟨fb.color x.toNat y.toNat, ?_, ?_⟩
  · rw [(wf.framebuffer fb hfb).pixel_eq, if_pos ⟨hcovers.1, hcovers.2.1⟩]
    rfl
  · rw [h.wellFormed.display.pixel_eq ((h.onPanel wf).2 hxy),
      h.grid_of_covers wf hfit hxy hcovers]

theorem Shows.pixel_of_not_covers (h : Shows fb regions s s') (wf : s.WellFormed)
    (hfit : OnCanvas fb s.display) {x y : UInt16} (hxy : s.display.OnPanel x.toNat y.toNat)
    (hcovers : ¬ Covers fb regions x.toNat y.toNat) :
    s'.display.pixel x y = s.display.pixel x y := by
  rw [h.wellFormed.display.pixel_eq ((h.onPanel wf).2 hxy), wf.display.pixel_eq hxy,
    h.grid_of_not_covers wf hfit hxy hcovers]

end Shows

/-- The panel shows what is stored wherever nothing waits to be sent. -/
def UpToDate {σ : Type} (shown : σ → Nat → Nat → Packed) (s : Session σ) : Prop :=
  ∀ u v, s.display.OnPanel u v → ¬ s.display.dirty.Contains u v →
    shown s.screen u v = s.display.grid u v

theorem UpToDate.coherent {σ : Type} [PanelScreen σ] {s : Session σ}
    (h : UpToDate PanelScreen.shown s) : Coherent s.screen s.display [] := by
  intro u v huv
  by_cases hdirty : s.display.dirty.Contains u v
  · exact .inr (.inl hdirty)
  · exact .inl (h u v huv hdirty)

/-- After some announcement without a dropped picture, the panel shows what is stored. -/
theorem Shows.shown {σ : Type} [PanelScreen σ] {s s' : Session σ} (h : Shows fb regions s s')
    (wf : s.WellFormed) (hsome : regions ≠ []) (hstart : UpToDate PanelScreen.shown s)
    {answers : List Flush} (hrun : run (announcements regions) s = .ok (answers, s'))
    (hsent : ∀ rect, Flush.dropped rect ∉ answers) (huv : s.display.OnPanel u v) :
    PanelScreen.shown s'.screen u v = s'.display.grid u v :=
  (run_coherent_from wf hstart.coherent hrun).shown (h.clean (.inl hsome)) hsent
    ((h.onPanel wf).2 huv)

variable {σ τ : Type} [target : Screen σ] [target' : Screen τ]

/-- Announcing regions stores the framebuffer where they cover it and nothing else. Whatever covers
the same, announced on any screen over the same display, leaves the same bytes, and the same picture
on the panel if there was one announcement at least, none was dropped, and the panel was up to
date. -/
theorem shown_by_coverage {d : Display} (hd : d.Reachable) (screen : σ) {ops : List Op}
    {outcomes : List Flush} {s : Session σ} (h : run ops (start screen d) = .ok (outcomes, s))
    (hfb : s.framebuffer = some fb) (hfit : OnCanvas fb s.display) (t : Session τ)
    (hsame : t.display = s.display ∧ t.framebuffer = s.framebuffer)
    (regions others : List Region) :
    ∃ answers s' answers' t', run (announcements regions) s = .ok (answers, s') ∧
      run (announcements others) t = .ok (answers', t') ∧
      (∀ u v : UInt16, u < d.width → v < d.height →
        (Covers fb regions u.toNat v.toNat → ∃ color,
          fb.pixel u.toUInt32 v.toUInt32 = .ok (some color) ∧
            s'.display.pixel u v = .ok (some color.packed)) ∧
        (¬ Covers fb regions u.toNat v.toNat → s'.display.pixel u v = s.display.pixel u v)) ∧
      ((∀ u v, Covers fb regions u v ↔ Covers fb others u v) →
        t'.display.resident = s'.display.resident ∧
        ∀ (panel : PanelScreen σ) (panel' : PanelScreen τ), panel.toScreen = target →
          panel'.toScreen = target' → regions ≠ [] → others ≠ [] → UpToDate panel.shown s →
            UpToDate panel'.shown t → (∀ rect, Flush.dropped rect ∉ answers ++ answers') →
              ∀ u v, s.display.OnPanel u v →
                panel.shown s'.screen u v = panel'.shown t'.screen u v) := by
  have wf := run_wellFormed (start_wellFormed hd.wellFormed screen) h
  have hfb' : t.framebuffer = some fb := hsame.2.trans hfb
  have wf' : t.WellFormed := by
    refine ⟨hsame.1 ▸ wf.display, ?_⟩
    rw [hsame.2]
    exact wf.framebuffer
  obtain ⟨answers, s', hrun, hshows⟩ := announce_ok wf hfb regions
  obtain ⟨answers', t', hrun', hshows'⟩ := announce_ok wf' hfb' others
  refine ⟨answers, s', answers', t', hrun, hrun', ?_, ?_⟩
  · intro u v hu hv
    have huv := run_onPanel hd.wellFormed h hu hv
    exact ⟨hshows.pixel_of_covers wf hfb hfit huv, hshows.pixel_of_not_covers wf hfit huv⟩
  · intro hcovers
    refine ⟨hshows.resident_eq hshows' wf wf' hsame.1 hfit hcovers, ?_⟩
    intro panel panel' hpanel hpanel' hsome hsome' hstart hstart' hsent u v huv
    subst hpanel hpanel'
    have hshown := hshows.shown wf hsome hstart hrun
      (fun rect hdropped => hsent rect (List.mem_append_left _ hdropped)) huv
    have hshown' := hshows'.shown wf' hsome' hstart' hrun'
      (fun rect hdropped => hsent rect (List.mem_append_right _ hdropped)) (hsame.1 ▸ huv)
    rw [hshown, hshown', hshows.grid_eq hshows' wf wf' hsame.1 hfit hcovers huv]

theorem shown_by_coverage_two_panels :
    ∃ s s' t' : Session Screen.Simulated,
      run [.allocate 2 1, .setPixel 1 0 (.solid 255 0 0)]
        (start ⟨fun _ _ => ⟨7, 7⟩, []⟩ (.withCanvas 2 1 2 1)) = .ok ([], s) ∧
      run (announcements [⟨0, 0, 2, 1⟩]) s = .ok ([.sent ⟨0, 0, 2, 1⟩ 0], s') ∧
      run (announcements [⟨1, 0, 9, 9⟩, ⟨5, 5, 1, 1⟩, ⟨0, 0, 1, 1⟩])
        { s with screen := ⟨fun _ _ => ⟨9, 9⟩, [.shows 3]⟩ } =
          .ok ([.sent ⟨0, 0, 2, 1⟩ 3, .clean, .clean], t') ∧
      s'.display.pixel 1 0 = .ok (some ⟨0xF8, 0⟩) ∧
      t'.display.resident = s'.display.resident ∧
      ∀ u v, u < 2 → v < 1 → s'.screen.picture u v = t'.screen.picture u v := by
  have hrun : ∃ (s s' t' : Session Screen.Simulated) (fb : Framebuffer),
      run [.allocate 2 1, .setPixel 1 0 (.solid 255 0 0)]
        (start ⟨fun _ _ => ⟨7, 7⟩, []⟩ (.withCanvas 2 1 2 1)) = .ok ([], s) ∧
      run (announcements [⟨0, 0, 2, 1⟩]) s = .ok ([.sent ⟨0, 0, 2, 1⟩ 0], s') ∧
      run (announcements [⟨1, 0, 9, 9⟩, ⟨5, 5, 1, 1⟩, ⟨0, 0, 1, 1⟩])
        { s with screen := ⟨fun _ _ => ⟨9, 9⟩, [.shows 3]⟩ } =
          .ok ([.sent ⟨0, 0, 2, 1⟩ 3, .clean, .clean], t') ∧
      s.framebuffer = some fb ∧ fb.width = 2 ∧ fb.height = 1 ∧
      fb.pixel 1 0 = .ok (some (.solid 255 0 0)) ∧
      s.display.width = 2 ∧ s.display.height = 1 ∧ s.display.canvasWidth = 2 ∧
      s.display.canvasHeight = 1 ∧ s.display.dirty = ⟨0, 1, 0, 0⟩ :=
    ⟨_, _, _, _, rfl, rfl, rfl, rfl, rfl, rfl, rfl, rfl, rfl, rfl, rfl, rfl⟩
  obtain ⟨s, s', t', fb, hs, hfirst, hother, hfb, hfbWidth, hfbHeight, hred, hwidth, hheight,
    hcanvasWidth, hcanvasHeight, hdirty⟩ := hrun
  have hfit : OnCanvas fb s.display := by
    rw [OnCanvas, hfbWidth, hfbHeight, hcanvasWidth, hcanvasHeight]
    decide
  -- All of the panel waits to be sent, so that any content of it is up to date.
  have hstart : ∀ t : Session Screen.Simulated, t.display = s.display →
      UpToDate PanelScreen.shown t := by
    intro t ht u v huv hclean
    rw [ht, Display.OnPanel, hwidth, hheight] at huv
    rw [ht, hdirty] at hclean
    refine absurd ?_ hclean
    simp only [DirtyBox.Contains, UInt16.reduceToNat] at huv ⊢
    omega
  have hcovers : ∀ u v, Covers fb [⟨0, 0, 2, 1⟩] u v ↔
      Covers fb [⟨1, 0, 9, 9⟩, ⟨5, 5, 1, 1⟩, ⟨0, 0, 1, 1⟩] u v := by
    intro u v
    simp only [Covers, hfbWidth, hfbHeight, List.mem_cons, List.not_mem_nil, or_false,
      exists_eq_or_imp, exists_eq_left, Region.Contains, InRegion, UInt32.reduceToNat]
    omega
  obtain ⟨_, _, _, _, h₁, h₂, hpixel, hequal⟩ := shown_by_coverage (.withCanvas 2 1 2 1) _ hs hfb
    hfit ({ s with screen := ⟨fun _ _ => ⟨9, 9⟩, [.shows 3]⟩ } : Session Screen.Simulated)
    ⟨rfl, rfl⟩ [⟨0, 0, 2, 1⟩] [⟨1, 0, 9, 9⟩, ⟨5, 5, 1, 1⟩, ⟨0, 0, 1, 1⟩]
  cases hfirst.symm.trans h₁
  cases hother.symm.trans h₂
  obtain ⟨hresident, hpicture⟩ := hequal hcovers
  have hin : Covers fb [⟨0, 0, 2, 1⟩] 1 0 := by
    rw [Covers, hfbWidth, hfbHeight]
    refine ⟨by decide, by decide, _, List.mem_cons_self, ?_⟩
    simp only [Region.Contains, InRegion, UInt32.reduceToNat]
    omega
  obtain ⟨color, hcolor, hstored⟩ := (hpixel 1 0 (by decide) (by decide)).1 hin
  cases hred.symm.trans hcolor
  refine ⟨s, s', t', hs, hfirst, hother, hstored, hresident, ?_⟩
  intro u v hu hv
  refine hpicture inferInstance inferInstance rfl rfl (List.cons_ne_nil _ _)
    (List.cons_ne_nil _ _) (hstart s rfl) (hstart _ rfl) (by simp) u v ?_
  rw [Display.OnPanel, hwidth, hheight]
  exact ⟨hu, hv⟩

end PictureFrame.Session
