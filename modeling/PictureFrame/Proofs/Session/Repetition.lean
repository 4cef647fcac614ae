import PictureFrame.Proofs.Session.Announcement

set_option autoImplicit false

/-!
# Announcing a region again

A region that was announced is sent again exactly if copying it would change a pixel. Positions of a
framebuffer that is larger than the canvas wrap onto the same pixels of the panel, and the last one
copied there prevails. So a repeated announcement is clean if the last colour on each pixel is that
of every position of the region there, as it is for all framebuffers that fit the canvas. Otherwise
each copy of the region paints the pixel anew.
-/
namespace PictureFrame.Session

variable {fb : Framebuffer} {d d' : Display} {positions others : List (UInt32 × UInt32)}
variable {p q : UInt32 × UInt32}

def packedAt (fb : Framebuffer) (p : UInt32 × UInt32) : Packed :=
  (fb.color p.1.toNat p.2.toNat).packed

def Settled (fb : Framebuffer) (positions : List (UInt32 × UInt32)) (d : Display) : Prop :=
  ∀ p ∈ positions, d.Holds p.1 p.2 (fb.color p.1.toNat p.2.toNat)

def Coincide (d : Display) (p q : UInt32 × UInt32) : Prop :=
  d.column p.1 = d.column q.1 ∧ d.line p.2 = d.line q.2

/-- Of the positions that fall on the pixel of `p` the last one is `q`. -/
def LastOn (d : Display) (positions : List (UInt32 × UInt32)) (p q : UInt32 × UInt32) : Prop :=
  ∃ before after, positions = before ++ q :: after ∧ Coincide d p q ∧
    ∀ r ∈ after, ¬ Coincide d p r

/-- Each of the positions that falls on the panel has the colour of the last position, among these
and the others after them, that falls on its pixel. -/
def Prevails (fb : Framebuffer) (d : Display) (positions others : List (UInt32 × UInt32)) : Prop :=
  ∀ p ∈ positions, d.OnPanel (d.column p.1) (d.line p.2) →
    ∀ q, LastOn d (positions ++ others) p q → packedAt fb q = packedAt fb p

theorem Settled.copied_eq (h : Settled fb positions d) : copied fb positions d = d := by
  induction positions with
  | nil => rfl
  | cons p positions ih =>
    change copied fb positions (d.draw p.1 p.2 _) = d
    rw [(h p List.mem_cons_self).draw_eq_self]
    exact ih fun q hq => h q (List.mem_cons_of_mem p hq)

theorem settled_samePixels (h : Display.SamePixels d d') :
    Settled fb positions d' ↔ Settled fb positions d := by
  simp only [Settled, Display.Holds, h.column, h.line, h.grid, h.onPanel]

theorem settled_of_clean (wf : d.WellFormed) (h : (copied fb positions d).dirty = .empty) :
    Settled fb positions d := by
  induction positions with
  | nil => exact fun p hp => absurd hp List.not_mem_nil
  | cons p positions ih =>
    have hrest := tracks_copied (wf.draw p.1 p.2 (fb.color p.1.toNat p.2.toNat)) fb positions
    -- Drawing never takes a pixel out of the dirty box: a change here would be dirty at the end.
    have hhead : d.Holds p.1 p.2 (fb.color p.1.toNat p.2.toNat) := by
      refine wf.holds_of_clean fun u v hdirty => DirtyBox.not_contains_empty u v ?_
      rw [← h]
      exact hrest.dirty_of_dirty u v hdirty
    change (copied fb positions (d.draw p.1 p.2 _)).dirty = .empty at h
    rw [hhead.draw_eq_self] at h
    intro q hq
    rcases List.mem_cons.1 hq with rfl | hq
    · exact hhead
    · exact ih h q hq

theorem grid_copied_of_missed (wf : d.WellFormed) {u v : Nat} (huv : d.OnPanel u v)
    (h : ∀ q ∈ positions, ¬ (u = d.column q.1 ∧ v = d.line q.2)) :
    (copied fb positions d).grid u v = d.grid u v := by
  induction positions generalizing d with
  | nil => rfl
  | cons p positions ih =>
    have ht := wf.tracks_draw p.1 p.2 (fb.color p.1.toNat p.2.toNat)
    have hrest := ih (wf.draw p.1 p.2 (fb.color p.1.toNat p.2.toNat)) ((ht.onPanel u v).2 huv) (by
      intro q hq
      rw [ht.column, ht.line]
      exact h q (List.mem_cons_of_mem p hq))
    refine hrest.trans ?_
    rw [wf.grid_draw _ _ _ huv, if_neg (h p List.mem_cons_self)]

theorem LastOn.grid_copied (h : LastOn d positions p q) (wf : d.WellFormed)
    (hpanel : d.OnPanel (d.column p.1) (d.line p.2)) :
    (copied fb positions d).grid (d.column p.1) (d.line p.2) = packedAt fb q := by
  obtain ⟨before, after, rfl, ⟨hcolumn, hline⟩, hafter⟩ := h
  have hbefore := tracks_copied wf fb before
  have wf' := copied_wellFormed wf fb before
  have ht := wf'.tracks_draw q.1 q.2 (fb.color q.1.toNat q.2.toNat)
  have hpanel' := (hbefore.onPanel _ _).2 hpanel
  -- What is copied before the last position does not matter, and what follows misses the pixel.
  rw [copied_append]
  change (copied fb after ((copied fb before d).draw q.1 q.2 _)).grid _ _ = _
  rw [grid_copied_of_missed (wf'.draw _ _ _) ((ht.onPanel _ _).2 hpanel')]
  · rw [wf'.grid_draw _ _ _ hpanel', hbefore.column, hbefore.line, if_pos ⟨hcolumn, hline⟩]
    rfl
  · intro r hr
    rw [ht.column, ht.line, hbefore.column, hbefore.line]
    exact hafter r hr

theorem exists_lastOn (h : ∃ q ∈ positions, Coincide d p q) : ∃ q, LastOn d positions p q := by
  induction positions with
  | nil =>
    obtain ⟨q, hq, -⟩ := h
    exact absurd hq List.not_mem_nil
  | cons first positions ih =>
    by_cases hlater : ∃ q ∈ positions, Coincide d p q
    · obtain ⟨q, before, after, rfl, hlast⟩ := ih hlater
      exact ⟨q, first :: before, after, rfl, hlast⟩
    · obtain ⟨q, hq, hcoincide⟩ := h
      rcases List.mem_cons.1 hq with rfl | hq
      · exact ⟨q, [], positions, rfl, hcoincide, fun r hr hr' => hlater ⟨r, hr, hr'⟩⟩
      · exact absurd ⟨q, hq, hcoincide⟩ hlater

theorem settled_copied_iff (wf : d.WellFormed) :
    Settled fb positions (copied fb (positions ++ others) d) ↔ Prevails fb d positions others := by
  have ht := tracks_copied wf fb (positions ++ others)
  have hholds : ∀ p : UInt32 × UInt32, (copied fb (positions ++ others) d).Holds p.1 p.2
      (fb.color p.1.toNat p.2.toNat) ↔ (d.OnPanel (d.column p.1) (d.line p.2) →
        (copied fb (positions ++ others) d).grid (d.column p.1) (d.line p.2) = packedAt fb p) := by
    intro p
    rw [Display.Holds, ht.column, ht.line, ht.onPanel]
    rfl
  constructor
  · intro h p hp hpanel q hlast
    exact (hlast.grid_copied wf hpanel).symm.trans ((hholds p).1 (h p hp) hpanel)
  · intro h p hp
    rw [hholds]
    intro hpanel
    obtain ⟨q, hlast⟩ : ∃ q, LastOn d (positions ++ others) p q :=
      exists_lastOn ⟨p, List.mem_append_left others hp, rfl, rfl⟩
    exact (hlast.grid_copied wf hpanel).trans (h p hp hpanel q hlast)

theorem OnCanvas.unwrapped (h : OnCanvas fb d) (hp : p.1 < fb.width ∧ p.2 < fb.height) :
    d.column p.1 = p.1.toNat ∧ d.line p.2 = p.2.toNat :=
  ⟨Nat.mod_eq_of_lt (Nat.lt_of_lt_of_le (UInt32.lt_iff_toNat_lt.1 hp.1) h.1),
    Nat.mod_eq_of_lt (Nat.lt_of_lt_of_le (UInt32.lt_iff_toNat_lt.1 hp.2) h.2)⟩

theorem OnCanvas.eq_of_coincide (h : OnCanvas fb d) (hp : p.1 < fb.width ∧ p.2 < fb.height)
    (hq : q.1 < fb.width ∧ q.2 < fb.height) (hsame : Coincide d p q) : p = q := by
  obtain ⟨hcolumn, hline⟩ := hsame
  rw [(h.unwrapped hp).1, (h.unwrapped hq).1] at hcolumn
  rw [(h.unwrapped hp).2, (h.unwrapped hq).2] at hline
  exact Prod.ext (UInt32.toNat_inj.1 hcolumn) (UInt32.toNat_inj.1 hline)

theorem OnCanvas.prevails (h : OnCanvas fb d) (r : Region) (regions : List Region) :
    Prevails fb d (r.positions fb) (announced fb regions) := by
  intro p hp _ q hlast
  obtain ⟨before, after, hsplit, hcoincide, -⟩ := hlast
  have hq : q ∈ announced fb (r :: regions) := by
    change q ∈ r.positions fb ++ announced fb regions
    rw [hsplit]
    exact List.mem_append_right before List.mem_cons_self
  rw [h.eq_of_coincide (mem_positions.1 hp).2 (mem_announced.1 hq).2 hcoincide]

variable {σ : Type} [Screen σ] {s s' : Session σ} {r : Region}

theorem WellFormed.update_of_settled (wf : s.WellFormed) (hfb : s.framebuffer = some fb)
    (hclean : s.display.dirty = .empty) (hsettled : Settled fb (r.positions fb) s.display) :
    s.update r.x r.y r.width r.height = .ok (.clean, s) := by
  obtain ⟨screen, display, framebuffer⟩ := s
  cases hfb
  have hcopied : copied fb (Session.positions fb r.x r.y r.width r.height) display = display :=
    hsettled.copied_eq
  rw [update, copyRegion_eq wf.display (wf.framebuffer fb rfl), hcopied]
  simp only [bind, Except.bind, Display.flush_of_empty hclean]
  rfl

theorem Step.settled (h : Step s r.announcement (some .clean) s') (wf : s.WellFormed)
    (hfb : s.framebuffer = some fb) : Settled fb (r.positions fb) s.display := by
  generalize houtcome : Flush.clean = outcome at h
  cases h with
  | early unallocated => cases unallocated.symm.trans hfb
  | clean current unchanged =>
    cases current.symm.trans hfb
    exact settled_of_clean wf.display unchanged
  | @sent _ _ _ _ _ _ answer _ current copied dirty blit => cases answer <;> cases houtcome

/-- An update of a clean session is clean exactly if its region is settled, and then it does
nothing. -/
theorem WellFormed.update_clean (wf : s.WellFormed) (hfb : s.framebuffer = some fb)
    (hclean : s.display.dirty = .empty) {outcome : Flush}
    (h : s.update r.x r.y r.width r.height = .ok (outcome, s')) :
    (outcome = .clean ↔ Settled fb (r.positions fb) s.display) ∧ (outcome = .clean → s' = s) := by
  have hkept : Settled fb (r.positions fb) s.display → outcome = .clean ∧ s' = s := by
    intro hsettled
    have hsame := wf.update_of_settled hfb hclean hsettled
    rw [h] at hsame
    cases hsame
    exact ⟨rfl, rfl⟩
  have hsettled : outcome = .clean → Settled fb (r.positions fb) s.display := by
    rintro rfl
    exact (wf.step (perform_update h)).settled wf hfb
  exact ⟨⟨hsettled, fun hs => (hkept hs).1⟩, fun ho => (hkept (hsettled ho)).2⟩

/-- After an announcement and any others, the first one again is clean and leaves the session as it
is exactly if the region prevails over what was copied to its pixels; it does so on every canvas
that the framebuffer fits. -/
theorem repeated_update {d : Display} (hd : d.Reachable) (screen : σ) {ops : List Op}
    {outcomes : List Flush} {s : Session (Screen.Recorded σ)}
    (h : run ops (start ⟨screen, []⟩ d) = .ok (outcomes, s)) (hfb : s.framebuffer = some fb)
    (x y width height : UInt32) (between : List Region) :
    ∃ first s₁ answers s₂ second s₃, s.update x y width height = .ok (first, s₁) ∧
      run (announcements between) s₁ = .ok (answers, s₂) ∧
      s₂.update x y width height = .ok (second, s₃) ∧
      (second = .clean ↔ Prevails fb s.display (Session.positions fb x y width height)
        (announced fb between)) ∧
      (second = .clean → s₃ = s₂) ∧
      (OnCanvas fb s.display → second = .clean) := by
  have wf := run_wellFormed (start_wellFormed hd.wellFormed _) h
  obtain ⟨first, s₁, hfirst, hstep⟩ := wf.update_step x y width height
  have hshown : Shows fb [⟨x, y, width, height⟩] s s₁ := Step.shows hstep wf hfb
  obtain ⟨answers, s₂, hrun, hothers⟩ := announce_ok hshown.wellFormed hshown.framebuffer between
  have hall := hshown.append hothers
  have hclean := hall.clean (.inl (List.cons_ne_nil _ _))
  have hsettled : Settled fb (Session.positions fb x y width height) s₂.display ↔
      Prevails fb s.display (Session.positions fb x y width height) (announced fb between) :=
    (settled_samePixels hall.pixels).trans (settled_copied_iff wf.display)
  obtain ⟨second, s₃, hsecond, -⟩ := hall.wellFormed.update_step x y width height
  obtain ⟨hstored, hkept⟩ := WellFormed.update_clean (r := ⟨x, y, width, height⟩) hall.wellFormed
    hall.framebuffer hclean hsecond
  have hiff := hstored.trans hsettled
  exact ⟨first, s₁, answers, s₂, second, s₃, hfirst, hrun, hsecond, hiff, hkept,
    fun hfit => hiff.2 (hfit.prevails ⟨x, y, width, height⟩ between)⟩

theorem repeated_update_two_pixels : ∃ s s₁ s₂ : Session (Screen.Recorded Screen.Script),
    run [.allocate 2 1, .setPixel 1 0 (.solid 255 0 0)]
      (start ⟨⟨[.error (.transfer .data .timeout)]⟩, []⟩ (.withCanvas 2 1 2 1)) = .ok ([], s) ∧
    s.update 0 0 2 1 = .ok (.dropped ⟨0, 0, 2, 1⟩, s₁) ∧
    run (announcements [⟨1, 0, 1, 1⟩]) s₁ = .ok ([.clean], s₂) ∧
    s₂.update 0 0 2 1 = .ok (.clean, s₂) := by
  have hrun : ∃ (s s₁ s₂ : Session (Screen.Recorded Screen.Script)) (fb : Framebuffer),
      run [.allocate 2 1, .setPixel 1 0 (.solid 255 0 0)]
        (start ⟨⟨[.error (.transfer .data .timeout)]⟩, []⟩ (.withCanvas 2 1 2 1)) = .ok ([], s) ∧
      s.framebuffer = some fb ∧ s.update 0 0 2 1 = .ok (.dropped ⟨0, 0, 2, 1⟩, s₁) ∧
      run (announcements [⟨1, 0, 1, 1⟩]) s₁ = .ok ([.clean], s₂) ∧
      fb.width = 2 ∧ fb.height = 1 ∧ s.display.canvasWidth = 2 ∧ s.display.canvasHeight = 1 :=
    ⟨_, _, _, _, rfl, rfl, rfl, rfl, rfl, rfl, rfl, rfl⟩
  obtain ⟨s, s₁, s₂, fb, hs, hfb, hfirst, hothers, hwidth, hheight, hcanvas⟩ := hrun
  have hfit : OnCanvas fb s.display := by
    rw [OnCanvas, hwidth, hheight, hcanvas.1, hcanvas.2]
    decide
  obtain ⟨_, _, _, _, second, s₃, h₁, h₂, h₃, -, hsame, hclean⟩ :=
    repeated_update (.withCanvas 2 1 2 1) _ hs hfb 0 0 2 1 [⟨1, 0, 1, 1⟩]
  cases hfirst.symm.trans h₁
  cases hothers.symm.trans h₂
  cases hclean hfit
  cases hsame rfl
  exact ⟨s, s₁, s₂, hs, hfirst, hothers, h₃⟩

/-- On a canvas of one pixel a black and a white position share it, and it is sent every time. -/
theorem not_repeated_update_clean : ¬ ∀ (width height canvasWidth canvasHeight : UInt16)
    (ops : List Op) (outcomes : List Flush) (x y w t : UInt32) (first second : Flush)
    (s s₁ s₂ : Session (Screen.Recorded Screen.Script)),
    run ops (start ⟨⟨[]⟩, []⟩ (.withCanvas width height canvasWidth canvasHeight)) =
      .ok (outcomes, s) → s.framebuffer ≠ none → s.update x y w t = .ok (first, s₁) →
        s₁.update x y w t = .ok (second, s₂) →
          second = .clean ∧ s₂.screen.blits = s₁.screen.blits := by
  intro h
  have hclean := h 1 1 1 1 [.allocate 2 1, .setPixel 1 0 (.solid 255 255 255)] _ 0 0 2 1 _ _ _ _ _
    rfl nofun rfl rfl
  exact absurd hclean.1 nofun

end PictureFrame.Session
