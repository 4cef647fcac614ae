import PictureFrame.Proofs.Session.Wraparound

set_option autoImplicit false

namespace PictureFrame.Session

variable {fb : Framebuffer} {d : Display} {positions : List (UInt32 × UInt32)}
variable {points : Set (UInt16 × UInt16)}

def alteredBy (fb : Framebuffer) (positions : List (UInt32 × UInt32)) (d : Display) :
    Set (UInt16 × UInt16) :=
  {q | ∃ p ∈ positions, q ∈ d.altered p.1 p.2 (packedAt fb p)}

/-- When no two positions share a pixel, what a position changes does not depend on those before. -/
theorem bounds_copied (wf : d.WellFormed)
    (hapart : positions.Pairwise fun p q => ¬ Coincide d p q) (h : d.dirty.Bounds points) :
    (copied fb positions d).dirty.Bounds (alteredBy fb positions d ∪ points) := by
  induction positions generalizing d points with
  | nil =>
    have hnone : alteredBy fb [] d = ∅ := by simp [alteredBy]
    rwa [hnone, Set.empty_union]
  | cons p positions ih =>
    obtain ⟨hfirst, hrest⟩ := List.pairwise_cons.1 hapart
    have ht := wf.tracks_draw p.1 p.2 (fb.color p.1.toNat p.2.toNat)
    have hlater : alteredBy fb positions (d.draw p.1 p.2 (fb.color p.1.toNat p.2.toNat)) =
        alteredBy fb positions d := by
      ext q
      refine exists_congr fun r => and_congr_right fun hr => ?_
      rw [wf.altered_draw _ _ fun hsame => hfirst r hr ⟨hsame.1.symm, hsame.2.symm⟩]
    have hall : alteredBy fb (p :: positions) d =
        d.altered p.1 p.2 (packedAt fb p) ∪ alteredBy fb positions d := by
      ext q
      simp only [alteredBy, List.mem_cons, exists_eq_or_imp]
      rfl
    have hdrawn := ih (wf.draw p.1 p.2 (fb.color p.1.toNat p.2.toNat))
      (hrest.imp fun {r q} hne => by rwa [Coincide, ht.column, ht.column, ht.line, ht.line])
      (Display.bounds_draw h p.1 p.2 (fb.color p.1.toNat p.2.toNat))
    rw [hlater] at hdrawn
    rw [hall, Set.union_assoc, Set.union_left_comm]
    exact hdrawn

theorem OnCanvas.apart (h : OnCanvas fb d) (r : Region) :
    (r.positions fb).Pairwise fun p q => ¬ Coincide d p q := by
  refine (positions_pairwise fb r.x r.y r.width r.height).imp_of_mem ?_
  intro p q hp hq hlt hsame
  cases h.eq_of_coincide (mem_positions.1 hp).2 (mem_positions.1 hq).2 hsame
  rcases hlt with hrow | ⟨-, hcolumn⟩
  · exact UInt32.lt_irrefl _ hrow
  · exact UInt32.lt_irrefl _ hcolumn

/-- The pixels that the region, the framebuffer and the panel have in common and whose colour in
the framebuffer is not stored. -/
def outdated (fb : Framebuffer) (d : Display) (r : Region) : Set (UInt16 × UInt16) :=
  {q | r.Contains q.1.toNat q.2.toNat ∧ ∃ color stored,
    fb.pixel q.1.toUInt32 q.2.toUInt32 = .ok (some color) ∧ d.pixel q.1 q.2 = .ok (some stored) ∧
      color.packed ≠ stored}

theorem alteredBy_positions (wf : d.WellFormed) (hfb : fb.WellFormed) (hfit : OnCanvas fb d)
    (r : Region) : alteredBy fb (r.positions fb) d = outdated fb d r := by
  ext q
  constructor
  · rintro ⟨p, hp, hcolumn, hline, hpanel, hne⟩
    obtain ⟨hregion, hinside⟩ := mem_positions.1 hp
    rw [(hfit.unwrapped hinside).1] at hcolumn
    rw [(hfit.unwrapped hinside).2] at hline
    have hx : q.1.toUInt32 = p.1 := UInt32.toNat_inj.1 (by rw [UInt16.toNat_toUInt32, hcolumn])
    have hy : q.2.toUInt32 = p.2 := UInt32.toNat_inj.1 (by rw [UInt16.toNat_toUInt32, hline])
    refine ⟨?_, fb.color p.1.toNat p.2.toNat, d.grid q.1.toNat q.2.toNat, ?_,
      wf.pixel_eq hpanel, hne.symm⟩
    · rw [hcolumn, hline]
      exact hregion
    · rw [hx, hy]
      exact hfb.pixel_eq_some.2 ⟨hinside, rfl⟩
  · rintro ⟨hregion, color, stored, hcolor, hstored, hne⟩
    obtain ⟨hinside, rfl⟩ := hfb.pixel_eq_some.1 hcolor
    obtain ⟨hpanel, rfl⟩ := wf.pixel_eq_some.1 hstored
    have hunwrapped := hfit.unwrapped (p := (q.1.toUInt32, q.2.toUInt32)) hinside
    rw [UInt16.toNat_toUInt32, UInt16.toNat_toUInt32] at hunwrapped hne
    exact ⟨(q.1.toUInt32, q.2.toUInt32), mem_positions.2 ⟨hregion, hinside⟩, hunwrapped.1.symm,
      hunwrapped.2.symm, hpanel, hne.symm⟩

theorem bounds_outdated (wf : d.WellFormed) (hfb : fb.WellFormed) (hfit : OnCanvas fb d)
    (hclean : d.dirty = .empty) (r : Region) :
    (copied fb (r.positions fb) d).dirty.Bounds (outdated fb d r) := by
  have hbounds : (copied fb (r.positions fb) d).dirty.Bounds
      (alteredBy fb (r.positions fb) d ∪ ∅) := bounds_copied wf (hfit.apart r) (.empty hclean rfl)
  rwa [Set.union_empty, alteredBy_positions wf hfb hfit r] at hbounds

variable {σ : Type} [Screen σ]

/-- While nothing is dirty and the framebuffer fits the canvas, an update is clean exactly if no pixel
of its region is outdated, and then it sends nothing. Otherwise it sends once, the smallest rectangle
around the outdated pixels, with all that is stored there afterwards. -/
theorem update_traffic (hd : d.Reachable) (screen : σ) {ops : List Op} {outcomes : List Flush}
    {s : Session (Screen.Recorded σ)} (h : run ops (start ⟨screen, []⟩ d) = .ok (outcomes, s))
    (hfb : s.framebuffer = some fb) (hclean : s.display.dirty = .empty)
    (hfit : OnCanvas fb s.display) (x y width height : UInt32) :
    ∃ outcome s', s.update x y width height = .ok (outcome, s') ∧
      (outcome = .clean ↔ outdated fb s.display ⟨x, y, width, height⟩ = ∅) ∧
      (outdated fb s.display ⟨x, y, width, height⟩ = ∅ → s'.screen = s.screen) ∧
      (outdated fb s.display ⟨x, y, width, height⟩ ≠ ∅ → ∃ rect payload,
        outcome = .ofAnswer rect (Screen.blit payload rect s.screen.screen).1 ∧
        s'.screen.blits = s.screen.blits ++ [(rect, payload)] ∧
        rect.Tight (outdated fb s.display ⟨x, y, width, height⟩) ∧
        payload.size = rect.byteLength ∧
        ∀ u v : UInt16, rect.Contains u.toNat v.toNat →
          s'.display.pixel u v = .ok (some (rect.pixelIn payload u.toNat v.toNat))) := by
  have wf := run_wellFormed (start_wellFormed hd.wellFormed _) h
  have hbounds := bounds_outdated wf.display (wf.framebuffer fb hfb) hfit hclean
    ⟨x, y, width, height⟩
  have hwf := copied_wellFormed wf.display fb (Session.positions fb x y width height)
  obtain ⟨outcome, s', hupdate, hstep⟩ := wf.update_step x y width height
  refine ⟨outcome, s', hupdate, ?_⟩
  cases hstep with
  | early unallocated => cases unallocated.symm.trans hfb
  | clean current unchanged =>
    cases current.symm.trans hfb
    have hnone := hbounds.eq_empty_iff.1 unchanged
    exact ⟨iff_of_true rfl hnone, fun _ => rfl, fun hsome => absurd hnone hsome⟩
  | sent current copied dirty blit =>
    cases current.symm.trans hfb
    subst copied
    have hsome := hbounds.eq_empty_iff.not.1 dirty.ne_empty
    refine ⟨iff_of_false (Flush.ofAnswer_ne_clean _ _) hsome, fun hnone => absurd hnone hsome,
      fun _ => ?_⟩
    refine ⟨_, _, congrArg (fun r => Flush.ofAnswer _ r.1) blit.symm,
      congrArg (fun r => r.2.blits) blit.symm, (hbounds.tight_of_ne dirty.ne_empty).rect dirty,
      hwf.picture_size dirty.rect_inside, fun u v huv => ?_⟩
    exact hwf.pixel_flushed dirty huv

theorem update_traffic_two_pixels : ∃ (s s' : Session (Screen.Recorded Screen.Script))
    (fb : Framebuffer) (payload : Bytes),
    run [.allocate 2 1, .update 0 0 2 1, .setPixel 1 0 (.solid 255 0 0)]
      (start ⟨⟨[]⟩, []⟩ (.withCanvas 2 1 3 1)) = .ok ([.sent ⟨0, 0, 2, 1⟩ 0], s) ∧
    s.update 0 0 4294967295 9 = .ok (.sent ⟨1, 0, 2, 1⟩ 0, s') ∧
    Rect.Tight ⟨1, 0, 2, 1⟩ (outdated fb s.display ⟨0, 0, 4294967295, 9⟩) ∧
    s'.screen.blits = s.screen.blits ++ [(⟨1, 0, 2, 1⟩, payload)] ∧ payload.size = 2 := by
  have hrun : ∃ (s s' : Session (Screen.Recorded Screen.Script)) (fb : Framebuffer),
      run [.allocate 2 1, .update 0 0 2 1, .setPixel 1 0 (.solid 255 0 0)]
        (start ⟨⟨[]⟩, []⟩ (.withCanvas 2 1 3 1)) = .ok ([.sent ⟨0, 0, 2, 1⟩ 0], s) ∧
      s.update 0 0 4294967295 9 = .ok (.sent ⟨1, 0, 2, 1⟩ 0, s') ∧
      s.framebuffer = some fb ∧ s.display.dirty = .empty ∧ fb.width = 2 ∧ fb.height = 1 ∧
      s.display.canvasWidth = 3 ∧ s.display.canvasHeight = 1 :=
    ⟨_, _, _, rfl, rfl, rfl, rfl, rfl, rfl, rfl, rfl⟩
  obtain ⟨s, s', fb, hs, hupdate, hfb, hclean, hwidth, hheight, hcanvas⟩ := hrun
  have hfit : OnCanvas fb s.display := by
    rw [OnCanvas, hwidth, hheight, hcanvas.1, hcanvas.2]
    decide
  obtain ⟨_, _, heq, hiff, -, hsent⟩ :=
    update_traffic (.withCanvas 2 1 3 1) ⟨[]⟩ hs hfb hclean hfit 0 0 4294967295 9
  cases hupdate.symm.trans heq
  obtain ⟨rect, payload, houtcome, hblits, htight, hsize, -⟩ := hsent (hiff.not.1 (by simp))
  generalize (Screen.blit payload rect s.screen.screen).1 = answer at houtcome
  cases answer with
  | error fault => cases houtcome
  | ok code =>
    cases houtcome
    exact ⟨s, s', fb, payload, hs, hupdate, htight, hblits, hsize⟩

end PictureFrame.Session
