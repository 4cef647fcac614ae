import PictureFrame.Proofs.Session.Region

set_option autoImplicit false

namespace PictureFrame.Session

inductive Op
  | allocate (width height : UInt32)
  | setPixel (x y : UInt32) (color : Color)
  | write (start : Nat) (bytes : List UInt8)
  | update (x y width height : UInt32)
  deriving DecidableEq, Repr

variable {σ : Type} [Screen σ]

def edit (s : Session σ) (change : Framebuffer → Checked Framebuffer) : Checked (Session σ) :=
  match s.framebuffer with
  | none => .ok s
  | some fb => do return { s with framebuffer := some (← change fb) }

def perform (s : Session σ) : Op → Checked (Option Flush × Session σ)
  | .allocate width height => do return (none, ← s.allocate width height)
  | .setPixel x y color => do return (none, ← s.edit (·.setPixel x y color))
  | .write start bytes => do return (none, ← s.edit (·.write start bytes))
  | .update x y width height => do
    let (outcome, s) ← s.update x y width height
    return (some outcome, s)

def run : List Op → Session σ → Checked (List Flush × Session σ)
  | [], s => .ok ([], s)
  | op :: rest, s => do
    let (outcome, s) ← s.perform op
    let (outcomes, s) ← run rest s
    return (outcome.toList ++ outcomes, s)

structure WellFormed (s : Session σ) : Prop where
  display : s.display.WellFormed
  framebuffer : ∀ fb, s.framebuffer = some fb → fb.WellFormed

/-- The bytes that an operation writes into a framebuffer, and where they start. -/
def Op.span (fb : Framebuffer) : Op → Option (Nat × List UInt8)
  | .setPixel x y color =>
    if x < fb.width ∧ y < fb.height then some (fb.place x.toNat y.toNat, color.toBytes.toList)
    else none
  | .write start bytes => some (start, bytes)
  | _ => none

def Op.IsEdit : Op → Prop
  | .setPixel _ _ _ | .write _ _ => True
  | _ => False

def Op.Announces (op : Op) (u v : Nat) : Prop :=
  ∃ x y width height, op = .update x y width height ∧ InRegion x y width height u v

/-- All that an operation can do to a well-formed session. -/
inductive Step (s : Session σ) : Op → Option Flush → Session σ → Prop
  | allocate {width height : UInt32} {fb : Framebuffer}
      (allocated : Framebuffer.new width height = .ok fb) :
      Step s (.allocate width height) none { s with framebuffer := some fb }
  | edit {op : Op} {fb fb' : Framebuffer} {start : Nat} {bytes : List UInt8}
      (current : s.framebuffer = some fb) (span : op.span fb = some (start, bytes))
      (written : Framebuffer.Written fb fb' start bytes) :
      Step s op none { s with framebuffer := some fb' }
  | idle {op : Op} (edit : op.IsEdit)
      (nothing : ∀ fb, s.framebuffer = some fb → op.span fb = none) : Step s op none s
  | early {x y width height : UInt32} (unallocated : s.framebuffer = none) :
      Step s (.update x y width height) (some .clean) s
  | clean {x y width height : UInt32} {fb : Framebuffer} (current : s.framebuffer = some fb)
      (unchanged : (copied fb (positions fb x y width height) s.display).dirty = .empty) :
      Step s (.update x y width height) (some .clean)
        { s with display := copied fb (positions fb x y width height) s.display }
  | sent {x y width height : UInt32} {fb : Framebuffer} {d : Display} {answer : Except Fault UInt8}
      {screen : σ} (current : s.framebuffer = some fb)
      (copied : d = copied fb (positions fb x y width height) s.display)
      (dirty : d.dirty.Within d.width.toNat d.height.toNat)
      (blit : Screen.blit (d.picture d.dirty.rect) d.dirty.rect s.screen = (answer, screen)) :
      Step s (.update x y width height) (some (.ofAnswer d.dirty.rect answer))
        ⟨screen, d.flushed, some fb⟩

variable {s s' : Session σ}

theorem WellFormed.update_step (wf : s.WellFormed) (x y width height : UInt32) :
    ∃ outcome s', s.update x y width height = .ok (outcome, s') ∧
      Step s (.update x y width height) (some outcome) s' := by
  obtain ⟨screen, display, framebuffer⟩ := s
  cases framebuffer with
  | none => exact ⟨_, _, rfl, .early rfl⟩
  | some fb =>
    have hcopy := copyRegion_eq wf.display (wf.framebuffer fb rfl) x y width height
    have hwf := copied_wellFormed wf.display fb (positions fb x y width height)
    have hupdate : update ⟨screen, display, some fb⟩ x y width height =
        (copied fb (positions fb x y width height) display).flush screen >>= fun r =>
          pure (r.1, ⟨r.2.2, r.2.1, some fb⟩) := by
      rw [update, hcopy]
      rfl
    rcases hwf.flush_cases screen with ⟨hempty, hflush⟩ | ⟨hwithin, hflush⟩
    · rw [hupdate, hflush]
      exact ⟨_, _, rfl, .clean rfl hempty⟩
    · rw [hupdate, hflush]
      exact ⟨_, _, rfl, .sent rfl rfl hwithin rfl⟩

omit [Screen σ] in
theorem edit_eq_ok {change : Framebuffer → Checked Framebuffer} (h : s.edit change = .ok s') :
    s.framebuffer = none ∧ s' = s ∨ ∃ fb fb', s.framebuffer = some fb ∧ change fb = .ok fb' ∧
      s' = { s with framebuffer := some fb' } := by
  unfold edit at h
  split at h
  · rename_i hnone
    cases h
    exact .inl ⟨hnone, rfl⟩
  · rename_i fb hsome
    obtain ⟨fb', hchange, h⟩ := Checked.bind_eq_ok.1 h
    cases h
    exact .inr ⟨fb, fb', hsome, hchange, rfl⟩

theorem WellFormed.step (wf : s.WellFormed) {op : Op} {o : Option Flush}
    (h : s.perform op = .ok (o, s')) : Step s op o s' := by
  cases op with
  | allocate width height =>
    obtain ⟨allocated, hallocated, h⟩ := Checked.bind_eq_ok.1 h
    obtain ⟨fb, hfb, hallocated⟩ := Checked.bind_eq_ok.1 hallocated
    cases hallocated
    cases h
    exact .allocate hfb
  | setPixel x y color =>
    obtain ⟨edited, hedit, h⟩ := Checked.bind_eq_ok.1 h
    cases h
    rcases edit_eq_ok hedit with ⟨hnone, rfl⟩ | ⟨fb, fb', hfb, hset, rfl⟩
    · exact .idle trivial fun fb hfb => nomatch hnone.symm.trans hfb
    · rw [(wf.framebuffer fb hfb).setPixel_eq] at hset
      by_cases hinside : x < fb.width ∧ y < fb.height
      · rw [if_pos hinside] at hset
        exact .edit hfb (if_pos hinside) (Framebuffer.write_eq_ok hset)
      · rw [if_neg hinside] at hset
        cases hset
        have hsame : ({ s with framebuffer := some fb } : Session σ) = s := by rw [← hfb]
        rw [hsame]
        refine .idle trivial fun current hcurrent => ?_
        rw [hfb] at hcurrent
        cases hcurrent
        exact if_neg hinside
  | write start bytes =>
    obtain ⟨edited, hedit, h⟩ := Checked.bind_eq_ok.1 h
    cases h
    rcases edit_eq_ok hedit with ⟨hnone, rfl⟩ | ⟨fb, fb', hfb, hwrite, rfl⟩
    · exact .idle trivial fun fb hfb => nomatch hnone.symm.trans hfb
    · exact .edit hfb rfl (Framebuffer.write_eq_ok hwrite)
  | update x y width height =>
    obtain ⟨outcome, updated, hupdate, hstep⟩ := wf.update_step x y width height
    obtain ⟨result, hresult, h⟩ := Checked.bind_eq_ok.1 h
    rw [hupdate] at hresult
    cases hresult
    cases h
    exact hstep

theorem Step.wellFormed {op : Op} {o : Option Flush} (h : Step s op o s') (wf : s.WellFormed) :
    s'.WellFormed := by
  cases h with
  | allocate allocated =>
    refine ⟨wf.display, ?_⟩
    intro fb hfb
    cases hfb
    exact (Framebuffer.new_eq_ok allocated).1
  | edit current span written =>
    refine ⟨wf.display, ?_⟩
    intro fb hfb
    cases hfb
    exact written.wellFormed (wf.framebuffer _ current)
  | idle edit nothing => exact wf
  | early unallocated => exact wf
  | clean current unchanged =>
    exact ⟨copied_wellFormed wf.display _ _, wf.framebuffer⟩
  | sent current copied dirty blit =>
    subst copied
    refine ⟨?_, ?_⟩
    · exact (copied_wellFormed wf.display _ _).flushed dirty
    · intro fb hfb
      cases hfb
      exact wf.framebuffer _ current

theorem Step.dirty_eq_empty {x y width height : UInt32} {o : Option Flush}
    (h : Step s (.update x y width height) o s') (hfb : s.framebuffer ≠ none) :
    s'.display.dirty = .empty := by
  cases h with
  | edit current span written => cases span
  | idle edit nothing => cases edit
  | early unallocated => exact absurd unallocated hfb
  | clean current unchanged => exact unchanged
  | sent current copied dirty blit => rfl

theorem Step.size {op : Op} {o : Option Flush} (h : Step s op o s') (wf : s.WellFormed) :
    s'.display.width = s.display.width ∧ s'.display.height = s.display.height := by
  cases h with
  | allocate | edit | idle | early => exact ⟨rfl, rfl⟩
  | clean current unchanged => exact (tracks_copied wf.display _ _).size
  | sent current copied dirty blit =>
    subst copied
    exact (tracks_copied wf.display _ _).size

theorem Step.canvas {op : Op} {o : Option Flush} (h : Step s op o s') (wf : s.WellFormed) :
    s'.display.canvasWidth = s.display.canvasWidth ∧
      s'.display.canvasHeight = s.display.canvasHeight := by
  cases h with
  | allocate | edit | idle | early => exact ⟨rfl, rfl⟩
  | clean current unchanged => exact (tracks_copied wf.display _ _).canvas
  | sent current copied dirty blit =>
    subst copied
    exact (tracks_copied wf.display _ _).canvas

/-- The operation fits the memory and the framebuffer. -/
def Op.Legal (current : Option Framebuffer) : Op → Prop
  | .allocate width height => width.toNat * height.toNat * 4 < Checked.allocationLimit
  | .write start bytes => ∀ fb, current = some fb → start + bytes.length ≤ fb.data.size
  | _ => True

omit [Screen σ] in
theorem edit_ok {change : Framebuffer → Checked Framebuffer}
    (h : ∀ fb, s.framebuffer = some fb → ∃ fb', change fb = .ok fb') :
    ∃ s', s.edit change = .ok s' := by
  unfold edit
  split
  · exact ⟨_, rfl⟩
  · rename_i fb hfb
    obtain ⟨fb', hchange⟩ := h fb hfb
    rw [hchange]
    exact ⟨_, rfl⟩

theorem WellFormed.perform_ok (wf : s.WellFormed) {op : Op} (h : op.Legal s.framebuffer) :
    ∃ o s', s.perform op = .ok (o, s') := by
  cases op with
  | allocate width height =>
    obtain ⟨fb, hfb⟩ := Framebuffer.new_ok h
    refine ⟨none, { s with framebuffer := some fb }, ?_⟩
    rw [perform, allocate, hfb]
    rfl
  | setPixel x y color =>
    have hset : ∀ fb, s.framebuffer = some fb → ∃ fb', fb.setPixel x y color = .ok fb' :=
      fun fb hfb => (wf.framebuffer fb hfb).setPixel_ok x y color
    obtain ⟨s', hedit⟩ := edit_ok hset
    refine ⟨none, s', ?_⟩
    rw [perform, hedit]
    rfl
  | write start bytes =>
    have hwrite : ∀ fb, s.framebuffer = some fb → ∃ fb', fb.write start bytes = .ok fb' :=
      fun fb hfb => ⟨_, if_pos (h fb hfb)⟩
    obtain ⟨s', hedit⟩ := edit_ok hwrite
    refine ⟨none, s', ?_⟩
    rw [perform, hedit]
    rfl
  | update x y width height =>
    obtain ⟨outcome, s', hupdate, -⟩ := wf.update_step x y width height
    refine ⟨some outcome, s', ?_⟩
    rw [perform, hupdate]
    rfl

theorem perform_update {x y width height : UInt32} {outcome : Flush}
    (h : s.update x y width height = .ok (outcome, s')) :
    s.perform (.update x y width height) = .ok (some outcome, s') := by
  rw [perform, h]
  rfl

theorem run_cons {s₀ : Session σ} {op : Op} {ops : List Op} {o : Option Flush}
    {outcomes : List Flush} (hop : s₀.perform op = .ok (o, s))
    (hrest : run ops s = .ok (outcomes, s')) :
    run (op :: ops) s₀ = .ok (o.toList ++ outcomes, s') := by
  simp only [run, hop, hrest, bind, Except.bind, pure, Except.pure]

theorem run_append (before after : List Op) (s : Session σ) : run (before ++ after) s = do
    let (outcomes, s) ← run before s
    let (more, s) ← run after s
    return (outcomes ++ more, s) := by
  induction before generalizing s with
  | nil =>
    change run after s = run after s >>= fun r => pure r
    cases run after s <;> rfl
  | cons op before ih =>
    simp only [List.cons_append, run, ih]
    cases s.perform op with
    | error cause => rfl
    | ok first =>
      simp only [bind, Except.bind]
      cases run before first.2 with
      | error cause => rfl
      | ok second =>
        simp only [pure, Except.pure]
        cases run after second.2 with
        | error cause => rfl
        | ok third => simp only [List.append_assoc]

theorem run_concat {s₀ : Session σ} {ops : List Op} {outcomes : List Flush} {op : Op}
    {o : Option Flush} (h : run ops s₀ = .ok (outcomes, s)) (hop : s.perform op = .ok (o, s')) :
    run (ops ++ [op]) s₀ = .ok (outcomes ++ o.toList, s') := by
  rw [run_append, h]
  simp only [bind, Except.bind, run, hop, pure, Except.pure, List.append_nil]

/-- What holds at the start and is kept by each operation holds after every run. The step may use
the run so far. -/
theorem run_induction {P : List Op → List Flush → Session σ → Prop} {s₀ : Session σ}
    (start : P [] [] s₀)
    (step : ∀ ops outcomes s op o s', run ops s₀ = .ok (outcomes, s) → P ops outcomes s →
      s.perform op = .ok (o, s') → P (ops ++ [op]) (outcomes ++ o.toList) s')
    {ops : List Op} {outcomes : List Flush} (h : run ops s₀ = .ok (outcomes, s)) :
    P ops outcomes s := by
  -- Induction on what is still to run; the part that has run carries the property.
  suffices hfrom : ∀ (after before : List Op) (old new : List Flush) (s₁ : Session σ),
      run before s₀ = .ok (old, s₁) → P before old s₁ → run after s₁ = .ok (new, s) →
        P (before ++ after) (old ++ new) s by
    simpa using hfrom ops [] [] outcomes s₀ rfl start h
  intro after
  induction after with
  | nil =>
    intro before old new s₁ hbefore hP hafter
    cases hafter
    simpa using hP
  | cons op after ih =>
    intro before old new s₁ hbefore hP hafter
    obtain ⟨⟨o, s₂⟩, hperform, hafter⟩ := Checked.bind_eq_ok.1 hafter
    obtain ⟨⟨rest, s₃⟩, hrest, hafter⟩ := Checked.bind_eq_ok.1 hafter
    cases hafter
    have hmore : run (before ++ [op]) s₀ = .ok (old ++ o.toList, s₂) := run_concat hbefore hperform
    have hnext := ih (before ++ [op]) (old ++ o.toList) rest s₂ hmore
      (step before old s₁ op o s₂ hbefore hP hperform) hrest
    simpa only [List.append_assoc, List.singleton_append] using hnext

theorem run_wellFormed {s₀ : Session σ} (wf : s₀.WellFormed) {ops : List Op}
    {outcomes : List Flush} (h : run ops s₀ = .ok (outcomes, s)) : s.WellFormed :=
  run_induction (P := fun _ _ s => s.WellFormed) wf
    (fun _ _ _ _ _ _ _ wf hperform => (wf.step hperform).wellFormed wf) h

theorem run_size {s₀ : Session σ} (wf : s₀.WellFormed) {ops : List Op} {outcomes : List Flush}
    (h : run ops s₀ = .ok (outcomes, s)) :
    s.display.width = s₀.display.width ∧ s.display.height = s₀.display.height := by
  refine run_induction (P := fun _ _ s =>
    s.display.width = s₀.display.width ∧ s.display.height = s₀.display.height) ⟨rfl, rfl⟩ ?_ h
  intro ops outcomes s op o s' hrun hsize hperform
  have hstep := ((run_wellFormed wf hrun).step hperform).size (run_wellFormed wf hrun)
  exact ⟨hstep.1.trans hsize.1, hstep.2.trans hsize.2⟩

omit [Screen σ] in
theorem start_wellFormed {d : Display} (wf : d.WellFormed) (screen : σ) :
    (start screen d).WellFormed :=
  ⟨wf.markAll, fun _ h => nomatch h⟩

omit [Screen σ] in
theorem start_size (d : Display) (screen : σ) : (start screen d).display.width = d.width ∧
    (start screen d).display.height = d.height :=
  d.markAll_size

theorem run_canvas {screen : σ} {d : Display} (wf : d.WellFormed) {ops : List Op}
    {outcomes : List Flush} (h : run ops (start screen d) = .ok (outcomes, s)) :
    s.display.canvasWidth = d.canvasWidth ∧ s.display.canvasHeight = d.canvasHeight := by
  refine run_induction (P := fun _ _ s => s.display.canvasWidth = d.canvasWidth ∧
    s.display.canvasHeight = d.canvasHeight) d.markAll_canvas ?_ h
  intro ops outcomes s op o s' hrun hcanvas hperform
  have hbefore := run_wellFormed (start_wellFormed wf screen) hrun
  have hstep := (hbefore.step hperform).canvas hbefore
  exact ⟨hstep.1.trans hcanvas.1, hstep.2.trans hcanvas.2⟩

theorem run_onPanel {screen : σ} {d : Display} (wf : d.WellFormed) {ops : List Op}
    {outcomes : List Flush} (h : run ops (start screen d) = .ok (outcomes, s)) {x y : UInt16}
    (hx : x < d.width) (hy : y < d.height) : s.display.OnPanel x.toNat y.toNat := by
  obtain ⟨hwidth, hheight⟩ := run_size (start_wellFormed wf screen) h
  rw [Display.OnPanel, hwidth, hheight, (start_size d screen).1, (start_size d screen).2]
  exact ⟨hx, hy⟩

end PictureFrame.Session
