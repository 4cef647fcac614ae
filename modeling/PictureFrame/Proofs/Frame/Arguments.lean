import PictureFrame.Proofs.Frame

set_option autoImplicit false

namespace PictureFrame

theorem Exchange.Trouble.kind_ne {fault : Fault} (h : Trouble fault) :
    fault.kind ≠ .invalidArgument ∧ fault.kind ≠ .deviceNotFound := by
  cases h with
  | transfer phase cause => exact ⟨nofun, nofun⟩
  | short phase expected actual => exact ⟨nofun, nofun⟩
  | signature letters => exact ⟨nofun, nofun⟩

theorem Exchange.trouble_of_run {π : Type} [Usb.Pipe π] {command : CommandBlock} {data : DataPhase}
    {p : π} {fault : Fault} (h : (run command data p).1.result = .error fault) : Trouble fault := by
  obtain ⟨turns, -, hconforms⟩ := exists_conforms command data p
  exact hconforms.trouble h

namespace Frame

/-- An operation that looks at its argument first: what it does with a bad one, and the exchange
that it is with a good one. -/
structure Guarded {π : Type} [Usb.Pipe π] (op : StateM (Frame π) (Except Fault UInt8)) (bad : Prop)
    (complaint : Fault) (command : CommandBlock) (data : DataPhase) (frame : Frame π) : Prop where
  invalid : (∃ fault, (op frame).1 = .error fault ∧ fault.kind = .invalidArgument) ↔ bad
  refused : bad → op frame = (.error complaint, frame)
  exchanged : ¬ bad → (op frame).1 = (Exchange.run command data frame.pipe).1.result ∧
    (op frame).2.pipe = (Exchange.run command data frame.pipe).2
  size : (op frame).2.width = frame.width ∧ (op frame).2.height = frame.height
  others : ∀ fault, (op frame).1 = .error fault → fault ≠ complaint →
    fault.kind ≠ .invalidArgument ∧ fault.kind ≠ .deviceNotFound

section Guard

variable {π : Type} [Usb.Pipe π] {op : StateM (Frame π) (Except Fault UInt8)} {bad : Prop}
  {complaint : Fault} {command : CommandBlock} {data : DataPhase} {frame : Frame π}

theorem guarded_of_bad (hbad : bad) (hkind : complaint.kind = .invalidArgument)
    (h : op frame = (.error complaint, frame)) :
    Guarded op bad complaint command data frame := by
  refine ⟨?_, fun _ => h, fun hgood => absurd hbad hgood, ?_, ?_⟩
  · rw [h]
    exact ⟨fun _ => hbad, fun _ => ⟨complaint, rfl, hkind⟩⟩
  · rw [h]
    exact ⟨rfl, rfl⟩
  · intro fault hfault hother
    rw [h] at hfault
    cases hfault
    exact absurd rfl hother

theorem guarded_of_good (hgood : ¬ bad)
    (h : op frame = ((Exchange.run command data frame.pipe).1.result,
      { frame with pipe := (Exchange.run command data frame.pipe).2 })) :
    Guarded op bad complaint command data frame := by
  have hkind : ∀ fault, (op frame).1 = .error fault →
      fault.kind ≠ .invalidArgument ∧ fault.kind ≠ .deviceNotFound := by
    intro fault hfault
    rw [h] at hfault
    exact (Exchange.trouble_of_run hfault).kind_ne
  refine ⟨⟨?_, fun hbad => absurd hbad hgood⟩, fun hbad => absurd hbad hgood, fun _ => ?_, ?_,
    fun fault hfault _ => hkind fault hfault⟩
  · rintro ⟨fault, hfault, hinvalid⟩
    exact absurd hinvalid (hkind fault hfault).1
  · rw [h]
    exact ⟨rfl, rfl⟩
  · rw [h]
    exact ⟨rfl, rfl⟩

theorem blit_guarded (pixels : Bytes) (rect : Rect) (frame : Frame π) :
    Guarded (blit pixels rect) (pixels.size < rect.byteLength)
      (.pixelData rect.byteLength pixels.size) (Request.blit rect).block
      (.send (pixels.extract 0 rect.byteLength)) frame := by
  rcases Nat.lt_or_ge pixels.size rect.byteLength with hfew | henough
  · exact guarded_of_bad hfew rfl (blit_of_few hfew frame)
  · exact guarded_of_good (Nat.not_lt.2 henough) (blit_of_enough henough frame)

theorem setBacklight_guarded (level : UInt16) (frame : Frame π) :
    Guarded (setBacklight level) (7 < level) (.backlight level) (Request.brightness level).block
      .none frame := by
  by_cases hlevel : level ≤ 7
  · exact guarded_of_good (UInt16.not_lt.2 hlevel) (setBacklight_eq hlevel frame)
  · exact guarded_of_bad (UInt16.not_le.1 hlevel) rfl (setBacklight_of_bright hlevel frame)

theorem blit_append {rect : Rect} (front : Vector UInt8 rect.byteLength) (rest : Bytes)
    (frame : Frame π) :
    blit (front.toArray ++ rest) rect frame = blit front.toArray rect frame := by
  have hfront : (front.toArray ++ rest).extract 0 rect.byteLength = front.toArray := by
    simp
  have henough : rect.byteLength ≤ (front.toArray ++ rest).size := by
    simp
  rw [blit_of_enough henough, hfront, blit_eq front.size_toArray]

end Guard

/-- Bad arguments are refused as such, and nothing else is; a refused operation leaves the frame,
its pipe and the calls made so far as they were. Otherwise a blit is the exchange of its command
with the bytes that its rectangle takes, whatever follows them, and a backlight level that of its
command with no data. The panel's size stays. -/
theorem arguments_guarded {π : Type} [Usb.Pipe π] (frame : Frame (Usb.Recorded π)) :
    (∀ (pixels : Bytes) (rect : Rect),
      Guarded (blit pixels rect) (pixels.size < rect.byteLength)
        (.pixelData rect.byteLength pixels.size) (Request.blit rect).block
        (.send (pixels.extract 0 rect.byteLength)) frame) ∧
    (∀ (rect : Rect) (front : Vector UInt8 rect.byteLength) (rest rest' : Bytes),
      blit (front.toArray ++ rest) rect frame = blit (front.toArray ++ rest') rect frame) ∧
    (∀ level : UInt16,
      Guarded (setBacklight level) (7 < level) (.backlight level) (Request.brightness level).block
        .none frame) := by
  refine ⟨fun pixels rect => blit_guarded pixels rect frame, fun rect front rest rest' => ?_,
    fun level => setBacklight_guarded level frame⟩
  rw [blit_append, blit_append]

end Frame
end PictureFrame
