import PictureFrame.Proofs.Session.Run

set_option autoImplicit false

namespace PictureFrame.Session

structure Region where
  x : UInt32
  y : UInt32
  width : UInt32
  height : UInt32
  deriving DecidableEq, Repr

namespace Region

def Contains (r : Region) (u v : Nat) : Prop := InRegion r.x r.y r.width r.height u v

def positions (r : Region) (fb : Framebuffer) : List (UInt32 × UInt32) :=
  Session.positions fb r.x r.y r.width r.height

def announcement (r : Region) : Op := .update r.x r.y r.width r.height

end Region

def announcements (regions : List Region) : List Op := regions.map Region.announcement

def announced (fb : Framebuffer) (regions : List Region) : List (UInt32 × UInt32) :=
  regions.flatMap (·.positions fb)

theorem mem_announced {fb : Framebuffer} {regions : List Region} {p : UInt32 × UInt32} :
    p ∈ announced fb regions ↔
      (∃ r ∈ regions, r.Contains p.1.toNat p.2.toNat) ∧ p.1 < fb.width ∧ p.2 < fb.height := by
  simp only [announced, List.mem_flatMap, Region.positions, mem_positions, Region.Contains]
  constructor
  · intro h
    obtain ⟨r, hr, hin, hinside⟩ := h
    exact ⟨⟨r, hr, hin⟩, hinside⟩
  · intro h
    obtain ⟨⟨r, hr, hin⟩, hinside⟩ := h
    exact ⟨r, hr, hin, hinside⟩

theorem OnCanvas.announced_lt {fb : Framebuffer} {d : Display} (h : OnCanvas fb d)
    (regions : List Region) : ∀ p ∈ announced fb regions,
      p.1.toNat < d.canvasWidth.toNat ∧ p.2.toNat < d.canvasHeight.toNat := by
  intro p hp
  obtain ⟨r, -, hp⟩ := List.mem_flatMap.1 hp
  exact h.positions p hp

theorem copied_append (fb : Framebuffer) (before after : List (UInt32 × UInt32)) (d : Display) :
    copied fb (before ++ after) d = copied fb after (copied fb before d) :=
  List.foldl_append

theorem copied_samePixels {d d' : Display} (h : Display.SamePixels d d') (fb : Framebuffer)
    (positions : List (UInt32 × UInt32)) :
    Display.SamePixels (copied fb positions d) (copied fb positions d') := by
  induction positions generalizing d d' with
  | nil => exact h
  | cons p positions ih => exact ih (h.draw _ _ _)

variable {σ : Type} [Screen σ] {s s' s'' : Session σ} {fb : Framebuffer}

structure Shows (fb : Framebuffer) (regions : List Region) (s s' : Session σ) : Prop where
  wellFormed : s'.WellFormed
  framebuffer : s'.framebuffer = some fb
  pixels : Display.SamePixels (copied fb (announced fb regions) s.display) s'.display
  clean : regions ≠ [] ∨ s.display.dirty = .empty → s'.display.dirty = .empty

omit [Screen σ] in
theorem Shows.nil (wf : s.WellFormed) (hfb : s.framebuffer = some fb) : Shows fb [] s s := by
  refine ⟨wf, hfb, .refl _, ?_⟩
  intro h
  exact h.resolve_left fun hne => hne rfl

omit [Screen σ] in
theorem Shows.append {before after : List Region} (h : Shows fb before s s')
    (h' : Shows fb after s' s'') : Shows fb (before ++ after) s s'' := by
  refine ⟨h'.wellFormed, h'.framebuffer, ?_, ?_⟩
  · rw [announced, List.flatMap_append, copied_append]
    exact (copied_samePixels h.pixels fb _).trans h'.pixels
  · intro hclean
    apply h'.clean
    -- Without a second part, the first one has left the display clean.
    by_cases hafter : after = []
    · rw [hafter, List.append_nil] at hclean
      exact .inr (h.clean hclean)
    · exact .inl hafter

theorem Step.shows {r : Region} {o : Option Flush} (h : Step s r.announcement o s')
    (wf : s.WellFormed) (hfb : s.framebuffer = some fb) : Shows fb [r] s s' := by
  have hwf := h.wellFormed wf
  have hclean := h.dirty_eq_empty (by rw [hfb]; exact Option.some_ne_none fb)
  have hpositions : announced fb [r] = positions fb r.x r.y r.width r.height :=
    List.append_nil _
  cases h with
  | edit current span written => cases span
  | idle edit nothing => cases edit
  | early unallocated => cases unallocated.symm.trans hfb
  | clean current unchanged =>
    cases current.symm.trans hfb
    refine ⟨hwf, hfb, ?_, fun _ => hclean⟩
    rw [hpositions]
    exact .refl _
  | sent current copied dirty blit =>
    cases current.symm.trans hfb
    subst copied
    refine ⟨hwf, rfl, ?_, fun _ => hclean⟩
    rw [hpositions]
    exact Display.samePixels_flushed _

/-- Announcements never stop the program, and leave the pixels of their positions. -/
theorem announce_ok (wf : s.WellFormed) (hfb : s.framebuffer = some fb) (regions : List Region) :
    ∃ outcomes s', run (announcements regions) s = .ok (outcomes, s') ∧
      Shows fb regions s s' := by
  induction regions generalizing s with
  | nil => exact ⟨[], s, rfl, .nil wf hfb⟩
  | cons r regions ih =>
    obtain ⟨first, s₁, hupdate, hstep⟩ := wf.update_step r.x r.y r.width r.height
    have hfirst := hstep.shows wf hfb
    obtain ⟨others, s₂, hrun, hrest⟩ := ih hfirst.wellFormed hfirst.framebuffer
    exact ⟨first :: others, s₂, run_cons (perform_update hupdate) hrun, hfirst.append hrest⟩

end PictureFrame.Session
