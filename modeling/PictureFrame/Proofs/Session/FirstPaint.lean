import PictureFrame.Proofs.Session.Run

set_option autoImplicit false

namespace PictureFrame.Session

variable {σ : Type} [Screen σ] {s s' : Session σ} {op : Op} {ops : List Op} {o : Option Flush}

theorem Step.unallocated (h : Step s op o s') (hnone : s.framebuffer = none)
    (hop : ∀ width height, op ≠ .allocate width height) :
    s' = s ∧ ∀ outcome ∈ o, outcome = .clean := by
  cases h with
  | allocate allocated => exact absurd rfl (hop _ _)
  | edit current span written => cases hnone.symm.trans current
  | idle edit nothing => exact ⟨rfl, nofun⟩
  | early unallocated => exact ⟨rfl, fun _ hmem => (Option.some.inj hmem).symm⟩
  | clean current unchanged => cases hnone.symm.trans current
  | sent current copied dirty blit => cases hnone.symm.trans current

omit [Screen σ] in
theorem legal_of_unallocated (hnone : s.framebuffer = none)
    (hop : ∀ width height, op ≠ .allocate width height) : op.Legal s.framebuffer := by
  cases op with
  | allocate width height => exact absurd rfl (hop width height)
  | setPixel x y color => trivial
  | write start bytes => exact fun fb hfb => nomatch hnone.symm.trans hfb
  | update x y width height => trivial

theorem WellFormed.run_unallocated (wf : s.WellFormed) (hnone : s.framebuffer = none)
    (hops : ∀ width height, Op.allocate width height ∉ ops) :
    ∃ outcomes, run ops s = .ok (outcomes, s) ∧ ∀ outcome ∈ outcomes, outcome = .clean := by
  induction ops with
  | nil => exact ⟨[], rfl, nofun⟩
  | cons op ops ih =>
    have hop : ∀ width height, op ≠ .allocate width height := by
      rintro width height rfl
      exact hops width height List.mem_cons_self
    obtain ⟨o, s', hperform⟩ := wf.perform_ok (legal_of_unallocated hnone hop)
    obtain ⟨rfl, hclean⟩ := (wf.step hperform).unallocated hnone hop
    obtain ⟨outcomes, hrun, hrest⟩ := ih fun width height hmem =>
      hops width height (List.mem_cons_of_mem op hmem)
    refine ⟨o.toList ++ outcomes, run_cons hperform hrun, ?_⟩
    intro outcome hmem
    rcases List.mem_append.1 hmem with hfirst | hlater
    · exact hclean outcome (Option.mem_toList.1 hfirst)
    · exact hrest outcome hlater

theorem Step.unannounced (h : Step s op o s') (hop : ∀ x y w t, op ≠ .update x y w t) :
    s'.screen = s.screen ∧ s'.display = s.display := by
  cases h with
  | allocate allocated => exact ⟨rfl, rfl⟩
  | edit current span written => exact ⟨rfl, rfl⟩
  | idle edit nothing => exact ⟨rfl, rfl⟩
  | early unallocated => exact absurd rfl (hop _ _ _ _)
  | clean current unchanged => exact absurd rfl (hop _ _ _ _)
  | sent current copied dirty blit => exact absurd rfl (hop _ _ _ _)

theorem run_unannounced {s₀ : Session σ} (wf : s₀.WellFormed) {outcomes : List Flush}
    (h : run ops s₀ = .ok (outcomes, s)) (hops : ∀ x y w t, Op.update x y w t ∉ ops) :
    s.screen = s₀.screen ∧ s.display = s₀.display := by
  refine run_induction (P := fun ops _ s => (∀ x y w t, Op.update x y w t ∉ ops) →
    s.screen = s₀.screen ∧ s.display = s₀.display) (fun _ => ⟨rfl, rfl⟩) ?_ h hops
  intro ops outcomes s op o s' hrun hkept hperform hops
  have hop : ∀ x y w t, op ≠ .update x y w t := by
    rintro x y w t rfl
    exact hops x y w t (List.mem_append_right ops List.mem_cons_self)
  obtain ⟨hscreen, hdisplay⟩ := hkept fun x y w t hmem =>
    hops x y w t (List.mem_append_left [op] hmem)
  have hstep := ((run_wellFormed wf hrun).step hperform).unannounced hop
  exact ⟨hstep.1.trans hscreen, hstep.2.trans hdisplay⟩

theorem Step.flat (h : Step s op o s') (wf : s.WellFormed)
    (hflat : ∀ x y, ¬ s.display.OnPanel x y) :
    s'.screen = s.screen ∧ ∀ outcome ∈ o, outcome = .clean := by
  cases h with
  | allocate allocated => exact ⟨rfl, nofun⟩
  | edit current span written => exact ⟨rfl, nofun⟩
  | idle edit nothing => exact ⟨rfl, nofun⟩
  | early unallocated => exact ⟨rfl, fun _ hmem => (Option.some.inj hmem).symm⟩
  | clean current unchanged => exact ⟨rfl, fun _ hmem => (Option.some.inj hmem).symm⟩
  | sent current copied dirty blit =>
    subst copied
    obtain ⟨-, hright, -, hbottom⟩ := dirty
    exact absurd (((tracks_copied wf.display _ _).onPanel _ _).1 ⟨hright, hbottom⟩) (hflat _ _)

theorem run_flat {s₀ : Session σ} (wf : s₀.WellFormed) (hflat : ∀ x y, ¬ s₀.display.OnPanel x y)
    {outcomes : List Flush} (h : run ops s₀ = .ok (outcomes, s)) :
    s.screen = s₀.screen ∧ ∀ outcome ∈ outcomes, outcome = .clean := by
  refine run_induction (P := fun _ outcomes s => s.screen = s₀.screen ∧
    ∀ outcome ∈ outcomes, outcome = .clean) ⟨rfl, nofun⟩ ?_ h
  intro ops outcomes s op o s' hrun hbefore hperform
  have hwf := run_wellFormed wf hrun
  have hsize := run_size wf hrun
  have hempty : ∀ x y, ¬ s.display.OnPanel x y := by
    intro x y
    rw [Display.OnPanel, hsize.1, hsize.2]
    exact hflat x y
  obtain ⟨hscreen, hclean⟩ := (hwf.step hperform).flat hwf hempty
  refine ⟨hscreen.trans hbefore.1, ?_⟩
  intro outcome hmem
  rcases List.mem_append.1 hmem with hold | hnew
  · exact hbefore.2 outcome hold
  · exact hclean outcome (Option.mem_toList.1 hnew)

/-- On a display that is all marked, an update sends the whole panel as it is stored afterwards. -/
theorem Step.whole {d : Display} {x y w t : UInt32} {outcome : Flush} {fb : Framebuffer}
    (h : Step s (.update x y w t) (some outcome) s') (wf : s.WellFormed)
    (hmarked : s.display = d.markAll) (hwidth : 1 ≤ d.width) (hheight : 1 ≤ d.height)
    (hfb : s.framebuffer = some fb) :
    s'.display.resident = (copied fb (positions fb x y w t) s.display).resident ∧
      (outcome, s'.screen) =
        (Screen.blit s'.display.resident ⟨0, 0, d.width, d.height⟩ s.screen).map
          (.ofAnswer ⟨0, 0, d.width, d.height⟩) id := by
  have hwf := copied_wellFormed wf.display fb (positions fb x y w t)
  have htracks := tracks_copied wf.display fb (positions fb x y w t)
  have hsize := htracks.size
  rw [hmarked, d.markAll_size.1, d.markAll_size.2] at hsize
  obtain ⟨hwithin, hrect⟩ := Display.Tracks.whole (hmarked ▸ htracks) (hmarked ▸ hwf) hwidth hheight
  rw [← hmarked] at hwithin hrect
  cases h with
  | early unallocated => cases unallocated.symm.trans hfb
  | clean current unchanged =>
    cases current.symm.trans hfb
    rw [unchanged] at hwithin
    exact absurd hwithin.1 (by decide)
  | sent current copied dirty blit =>
    cases current.symm.trans hfb
    subst copied
    have hpicture := hwf.picture_whole
    rw [hmarked, hsize.1, hsize.2, ← hmarked] at hpicture
    rw [hrect, hpicture] at blit
    refine ⟨rfl, ?_⟩
    rw [hrect]
    exact (congrArg (Prod.map (Flush.ofAnswer ⟨0, 0, d.width, d.height⟩) id) blit).symm

/-- Before a framebuffer is allocated, nothing that a client does has an effect, and its updates are
clean. Whatever it draws then, the first update sends the whole panel and nothing else, once, with
all that is stored after the copy. To a panel without pixels nothing is ever sent. -/
theorem first_paint {d : Display} (hd : d.Reachable) (screen : σ) :
    (∀ early : List Op, (∀ width height, .allocate width height ∉ early) →
      ∃ outcomes, run early (start (⟨screen, []⟩ : Screen.Recorded σ) d) =
          .ok (outcomes, start ⟨screen, []⟩ d) ∧
        ∀ outcome ∈ outcomes, outcome = .clean) ∧
    (1 ≤ d.width → 1 ≤ d.height → ∀ (early drawing : List Op) (outcomes : List Flush)
        (s : Session (Screen.Recorded σ)) (fb : Framebuffer) (x y w t : UInt32),
      (∀ width height, .allocate width height ∉ early) →
        (∀ x y w t, .update x y w t ∉ drawing) →
          run (early ++ drawing) (start ⟨screen, []⟩ d) = .ok (outcomes, s) →
            s.framebuffer = some fb →
      ∃ outcome s' shown, s.update x y w t = .ok (outcome, s') ∧
        copyRegion fb s.display x y w t = .ok shown ∧ s'.display.resident = shown.resident ∧
        shown.resident.size = d.width.toNat * d.height.toNat * 2 ∧
        s'.screen.blits = [(⟨0, 0, d.width, d.height⟩, shown.resident)] ∧
        outcome = .ofAnswer ⟨0, 0, d.width, d.height⟩
          (Screen.blit shown.resident ⟨0, 0, d.width, d.height⟩ screen).1) ∧
    (d.width = 0 ∨ d.height = 0 → ∀ (ops : List Op) (outcomes : List Flush)
        (s : Session (Screen.Recorded σ)),
      run ops (start ⟨screen, []⟩ d) = .ok (outcomes, s) → s.screen.blits = []) := by
  have hstart : (start (⟨screen, []⟩ : Screen.Recorded σ) d).WellFormed :=
    start_wellFormed hd.wellFormed _
  refine ⟨fun early hearly => hstart.run_unallocated rfl hearly, ?_, ?_⟩
  · intro hwidth hheight early drawing outcomes s fb x y w t hearly hdrawing hrun hfb
    -- The early part leaves the session as it starts, and drawing leaves its display marked.
    obtain ⟨answers, hbefore, -⟩ := hstart.run_unallocated rfl hearly
    rw [run_append, hbefore] at hrun
    change (run drawing (start (⟨screen, []⟩ : Screen.Recorded σ) d) >>= _) = _ at hrun
    obtain ⟨⟨more, s₁⟩, hdrawn, hrun⟩ := Checked.bind_eq_ok.1 hrun
    cases hrun
    have wf := run_wellFormed hstart hdrawn
    obtain ⟨hscreen, hdisplay⟩ := run_unannounced hstart hdrawn hdrawing
    replace hscreen : s.screen = ⟨screen, []⟩ := hscreen
    obtain ⟨outcome, s', hupdate, hstep⟩ := wf.update_step x y w t
    obtain ⟨hresident, hblit⟩ := hstep.whole wf hdisplay hwidth hheight hfb
    have hcopied := copied_wellFormed wf.display fb (positions fb x y w t)
    have hsize := (tracks_copied wf.display fb (positions fb x y w t)).size
    rw [hscreen, hresident] at hblit
    refine ⟨outcome, s', _, hupdate, copyRegion_eq wf.display (wf.framebuffer fb hfb) x y w t,
      hresident, ?_, congrArg (·.2.blits) hblit, congrArg Prod.fst hblit⟩
    rw [hcopied.resident_size, hsize.1, hsize.2, hdisplay, (start_size d _).1, (start_size d _).2]
  · intro hflat ops outcomes s hrun
    refine congrArg (·.blits) (run_flat hstart ?_ hrun).1
    intro x y hxy
    rw [Display.OnPanel, (start_size d _).1, (start_size d _).2] at hxy
    rcases hflat with hzero | hzero <;> rw [hzero, UInt16.toNat_zero] at hxy <;> omega

theorem first_paint_two_pixels : ∃ s s' flat : Session (Screen.Recorded Screen.Script),
    run [.update 0 0 2 1, .allocate 2 1, .setPixel 1 0 (.solid 255 0 0)]
      (start ⟨⟨[.ok 3]⟩, []⟩ (.withCanvas 2 1 2 1)) = .ok ([.clean], s) ∧
    s.update 7 4294967295 9 4294967295 = .ok (.sent ⟨0, 0, 2, 1⟩ 3, s') ∧
    s'.screen.blits = [(⟨0, 0, 2, 1⟩, s'.display.resident)] ∧ s'.display.resident.size = 4 ∧
    run [.allocate 2 1, .update 0 0 2 1] (start ⟨⟨[]⟩, []⟩ (.withCanvas 0 5 1 1)) =
      .ok ([.clean], flat) ∧ flat.screen.blits = [] := by
  have hrun : ∃ (s s' flat : Session (Screen.Recorded Screen.Script)) (fb : Framebuffer),
      run [.update 0 0 2 1, .allocate 2 1, .setPixel 1 0 (.solid 255 0 0)]
        (start ⟨⟨[.ok 3]⟩, []⟩ (.withCanvas 2 1 2 1)) = .ok ([.clean], s) ∧
      s.framebuffer = some fb ∧
      s.update 7 4294967295 9 4294967295 = .ok (.sent ⟨0, 0, 2, 1⟩ 3, s') ∧
      run [.allocate 2 1, .update 0 0 2 1] (start ⟨⟨[]⟩, []⟩ (.withCanvas 0 5 1 1)) =
        .ok ([.clean], flat) := ⟨_, _, _, _, rfl, rfl, rfl, rfl⟩
  obtain ⟨s, s', flat, fb, hs, hfb, hupdate, hflat⟩ := hrun
  obtain ⟨-, hfirst, -⟩ := first_paint (.withCanvas 2 1 2 1) (⟨[.ok 3]⟩ : Screen.Script)
  obtain ⟨-, -, hnothing⟩ := first_paint (.withCanvas 0 5 1 1) (⟨[]⟩ : Screen.Script)
  obtain ⟨_, _, shown, heq, -, hresident, hsize, hblits, -⟩ :=
    hfirst (by decide) (by decide) [.update 0 0 2 1] [.allocate 2 1, .setPixel 1 0 (.solid 255 0 0)]
      _ _ _ 7 4294967295 9 4294967295 (by simp) (by simp) hs hfb
  cases hupdate.symm.trans heq
  rw [← hresident] at hblits hsize
  exact ⟨s, s', flat, hs, hupdate, hblits, hsize, hflat, hnothing (.inl rfl) _ _ _ hflat⟩

end PictureFrame.Session
