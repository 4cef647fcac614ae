import PictureFrame.Proofs.Display.Reachable
import PictureFrame.Proofs.Envelope
import PictureFrame.Proofs.Frame

set_option autoImplicit false

namespace PictureFrame

namespace Exchange

/-- The bytes that a call asks the data phase to move. The calls of this phase have times of their
own. -/
def dataBytes : Usb.Transfer → Nat
  | .write _ timeout bytes => if timeout = sendTimeout then bytes.size else 0
  | .read _ timeout room => if timeout = receiveTimeout then room else 0

def asked (calls : List Usb.Transfer) : Nat := (calls.map dataBytes).sum

theorem asked_append (first second : List Usb.Transfer) :
    asked (first ++ second) = asked first + asked second := by
  rw [asked, List.map_append, List.sum_append]
  rfl

theorem Transferred.asked_eq {data : DataPhase} {turns : List Usb.Turn} {ended : Except Fault Unit}
    {buffer : Bytes} (h : Transferred data turns ended buffer) :
    asked (turns.map Usb.Turn.call) = data.length := by
  cases h with
  | none => rfl
  | send payload answer => exact Nat.add_zero payload.size
  | receive buffer answer => exact Nat.add_zero buffer.size

theorem Concluded.asked_eq {tries : Nat} {turns : List Usb.Turn} {result : Except Fault UInt8}
    (h : Concluded tries turns result) : asked (turns.map Usb.Turn.call) = 0 := by
  induction h with
  | full reply => rfl
  | again missed later ih => exact (Nat.zero_add _).trans ih
  | last missed => rfl

theorem Conforms.asked_eq {command : CommandBlock} {data : DataPhase} {turns : List Usb.Turn}
    {outcome : Outcome} (h : Conforms command data turns outcome) :
    ∃ answer later, turns = .wrote 0x01 1000 (envelope command data).toArray answer :: later ∧
      (answer = .ok 31 ∧ asked (later.map Usb.Turn.call) = data.length ∨
        answer ≠ .ok 31 ∧ later = []) := by
  cases h with
  | refused missed =>
    refine ⟨_, [], rfl, .inr ⟨fun hwhole => ?_, rfl⟩⟩
    rw [moved_eq_ok.2 hwhole] at missed
    cases missed
  | broken sent missed => exact ⟨_, _, rfl, .inl ⟨moved_eq_ok.1 sent, missed.asked_eq⟩⟩
  | finished sent transferred concluded =>
    refine ⟨_, _, rfl, .inl ⟨moved_eq_ok.1 sent, ?_⟩⟩
    rw [List.map_append, asked_append, transferred.asked_eq, concluded.asked_eq, Nat.add_zero]

variable {π : Type} [Usb.Pipe π]

/-- From the first state of a pipe to the second, an envelope goes out with the length in its 32 bits.
Once it is out, data of the whole length is asked for; until then nothing is. -/
def Announces (before after : Usb.Recorded π) (length : Nat) : Prop :=
  ∃ (envelope : EnvelopeBytes) (rest : List Usb.Transfer),
    after.calls = before.calls ++ .write 0x01 1000 envelope.toArray :: rest ∧
    (Envelope.announced envelope).toNat = length % 2 ^ 32 ∧
    ((Usb.Pipe.write 0x01 1000 envelope.toArray before.pipe).1 = .ok 31 ∧ asked rest = length ∧
        ((Envelope.announced envelope).toNat = asked rest ↔ length < 2 ^ 32) ∨
      (Usb.Pipe.write 0x01 1000 envelope.toArray before.pipe).1 ≠ .ok 31 ∧ rest = [])

theorem run_announces (command : CommandBlock) (data : DataPhase) (r : Usb.Recorded π) :
    Announces r (run command data r).2 data.length := by
  obtain ⟨turns, hdialogue, hcalls, hconforms⟩ := exists_conforms_recorded command data r
  obtain ⟨answer, later, rfl, hlater⟩ := hconforms.asked_eq
  obtain ⟨rfl, -⟩ := hdialogue
  have hannounced : (Envelope.announced (envelope command data)).toNat = data.length % 2 ^ 32 := by
    rw [envelope, Envelope.announced_encode, UInt32.toNat_ofNat']
  refine ⟨envelope command data, later.map Usb.Turn.call, hcalls, hannounced, ?_⟩
  rcases hlater with ⟨hwhole, hasked⟩ | ⟨hrefused, rfl⟩
  · refine .inl ⟨hwhole, hasked, ?_⟩
    rw [hannounced, hasked]
    exact Nat.mod_eq_iff_lt (by decide)
  · exact .inr ⟨hrefused, rfl⟩

theorem Announces.of_whole {before after : Usb.Recorded π} {length : Nat}
    (h : Announces before after length) (hwhole : ∀ envelope : EnvelopeBytes,
      (Usb.Pipe.write 0x01 1000 envelope.toArray before.pipe).1 = .ok 31) :
    ∃ (envelope : EnvelopeBytes) (rest : List Usb.Transfer),
      after.calls = before.calls ++ .write 0x01 1000 envelope.toArray :: rest ∧
      (Envelope.announced envelope).toNat = length % 2 ^ 32 ∧ asked rest = length := by
  obtain ⟨envelope, rest, hcalls, hannounced, ⟨-, hasked, -⟩ | ⟨hrefused, -⟩⟩ := h
  · exact ⟨envelope, rest, hcalls, hannounced, hasked⟩
  · exact absurd (hwhole envelope) hrefused

theorem write_silent (envelope : EnvelopeBytes) :
    (Usb.Pipe.write 0x01 1000 envelope.toArray (⟨[], []⟩ : Usb.Script)).1 = .ok 31 :=
  congrArg Except.ok envelope.size_toArray

theorem blit_announces {pixels : Bytes} {rect : Rect} (h : rect.byteLength ≤ pixels.size)
    (frame : Frame (Usb.Recorded π)) :
    Announces frame.pipe (Frame.blit pixels rect frame).2.pipe rect.byteLength := by
  have hrun := run_announces (Request.blit rect).block (.send (pixels.extract 0 rect.byteLength))
    frame.pipe
  rw [DataPhase.length, Frame.size_payload h] at hrun
  rw [Frame.blit_of_enough h]
  exact hrun

theorem flush_announces {d : Display} (hd : d.Reachable) (hwidth : 1 ≤ d.width)
    (hheight : 1 ≤ d.height) (frame : Frame (Usb.Recorded π)) :
    ∃ outcome d' frame', d.markAll.flush frame = .ok (outcome, d', frame') ∧
      Announces frame.pipe frame'.pipe (d.width.toNat * d.height.toNat * 2) := by
  have wf := hd.wellFormed.markAll
  obtain ⟨hwithin, hrect⟩ := (Display.Tracks.refl d.markAll).whole wf hwidth hheight
  have hsize := wf.picture_size hwithin.rect_inside
  have hlength : d.markAll.dirty.rect.byteLength = d.width.toNat * d.height.toNat * 2 := by
    rw [hrect]
    rfl
  refine ⟨_, _, _, wf.flush_of_within hwithin frame, ?_⟩
  rw [← hlength]
  exact blit_announces (Nat.le_of_eq hsize.symm) frame

/-- Whatever the pipe answers, an exchange announces the length of its data modulo 2³² and asks for
all of it. So do a blit whose pixels suffice for its rectangle, and a flush of the whole panel of any
frame that can be opened: there the lengths differ from 2³¹ pixels on. -/
theorem announced_and_asked :
    (∀ (command : CommandBlock) (data : DataPhase) (r : Usb.Recorded π),
      Announces r (run command data r).2 data.length) ∧
    (∀ (pixels : Bytes) (rect : Rect) (frame : Frame (Usb.Recorded π)),
      pixels.size < rect.byteLength ∧ (Frame.blit pixels rect frame).2 = frame ∨
        rect.byteLength ≤ pixels.size ∧
          Announces frame.pipe (Frame.blit pixels rect frame).2.pipe rect.byteLength) ∧
    (∀ (p : Usb.Recorded π) (frame : Frame (Usb.Recorded π)), Frame.ofPipe p = .ok frame →
      ∀ d : Display, d.Reachable → d.width = frame.width → d.height = frame.height →
        ∃ outcome d' frame', d.markAll.flush frame = .ok (outcome, d', frame') ∧
          Announces frame.pipe frame'.pipe (frame.width.toNat * frame.height.toNat * 2)) := by
  refine ⟨run_announces, fun pixels rect frame => ?_, fun p frame hopen d hd hwidth hheight => ?_⟩
  · rcases Nat.lt_or_ge pixels.size rect.byteLength with hshort | hfits
    · refine .inl ⟨hshort, ?_⟩
      rw [Frame.blit_of_few hshort]
    · exact .inr ⟨hfits, blit_announces hfits frame⟩
  · cases Frame.ofPipe_eq_iff.1 hopen with
    | sized dialogue queried columns rows positive =>
      rw [← hwidth, ← hheight]
      exact flush_announces hd (hwidth ▸ positive.1) (hheight ▸ positive.2) _

/-- The largest panel that can be reported: a flush of all of it asks for 8,589,672,450 bytes and
announces 4,294,705,154. -/
theorem announced_and_asked_largest_panel : ∃ (frame frame' : Frame (Usb.Recorded Usb.Script))
    (outcome : Flush) (d' : Display) (envelope : EnvelopeBytes) (rest : List Usb.Transfer),
    Frame.ofPipe (⟨⟨[.ok #[0xFF, 0xFF, 0xFF, 0xFF, 0],
      .ok #[0x55, 0x53, 0x42, 0x53, 0, 0, 0, 0, 0, 0, 0, 0, 0]], []⟩, []⟩ :
        Usb.Recorded Usb.Script) = .ok frame ∧
    (Display.ofSize 0xFFFF 0xFFFF).markAll.flush frame = .ok (outcome, d', frame') ∧
    frame'.pipe.calls = frame.pipe.calls ++ .write 0x01 1000 envelope.toArray :: rest ∧
    (Envelope.announced envelope).toNat = 4294705154 ∧ asked rest = 8589672450 := by
  have hrun : ∃ calls width height, Frame.ofPipe (⟨⟨[.ok #[0xFF, 0xFF, 0xFF, 0xFF, 0],
      .ok #[0x55, 0x53, 0x42, 0x53, 0, 0, 0, 0, 0, 0, 0, 0, 0]], []⟩, []⟩ :
        Usb.Recorded Usb.Script) = .ok ⟨⟨⟨[], []⟩, calls⟩, width, height⟩ ∧
      width = 0xFFFF ∧ height = 0xFFFF := ⟨_, _, _, rfl, rfl, rfl⟩
  obtain ⟨calls, _, _, hopen, rfl, rfl⟩ := hrun
  have hlength : (0xFFFF : UInt16).toNat * (0xFFFF : UInt16).toNat * 2 = 8589672450 := by decide
  obtain ⟨outcome, d', frame', hflush, hannounces⟩ := announced_and_asked.2.2 _ _ hopen
    (.ofSize 0xFFFF 0xFFFF) (.withCanvas 0xFFFF 0xFFFF 0xFFFF 0xFFFF) rfl rfl
  obtain ⟨envelope, rest, hcalls, hannounced, hasked⟩ := hannounces.of_whole write_silent
  dsimp only at hannounced hasked
  rw [hlength] at hannounced hasked
  exact ⟨_, frame', outcome, d', envelope, rest, hopen, hflush, hcalls,
    hannounced.trans (by decide), hasked⟩

theorem not_announced_eq_asked : ∃ (envelope : EnvelopeBytes) (rest : List Usb.Transfer),
    (run Request.parameters.block (.receive (Array.replicate 4294967296 0))
      (⟨⟨[], []⟩, []⟩ : Usb.Recorded Usb.Script)).2.calls =
        .write 0x01 1000 envelope.toArray :: rest ∧
    (Envelope.announced envelope).toNat = 0 ∧ asked rest = 4294967296 := by
  have hannounces := run_announces Request.parameters.block
    (.receive (Array.replicate 4294967296 0)) (⟨⟨[], []⟩, []⟩ : Usb.Recorded Usb.Script)
  rw [DataPhase.length, Array.size_replicate] at hannounces
  obtain ⟨envelope, rest, hcalls, hannounced, hasked⟩ := hannounces.of_whole write_silent
  exact ⟨envelope, rest, hcalls, hannounced.trans (by decide), hasked⟩

end Exchange
end PictureFrame
