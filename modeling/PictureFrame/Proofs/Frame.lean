import PictureFrame.Frame
import PictureFrame.Proofs.Basic
import PictureFrame.Proofs.Exchange.Protocol

set_option autoImplicit false

namespace PictureFrame

namespace Exchange

theorem moved_eq_ok {phase : Phase} {expected : Nat} {answer : Except Usb.Error Nat} :
    moved phase expected answer = .ok () ↔ answer = .ok expected := by
  constructor
  · intro h
    cases answer with
    | error cause => cases h
    | ok count =>
      simp only [moved] at h
      split_ifs at h with hcount
      rw [hcount]
  · intro h
    rw [h]
    exact if_pos rfl

theorem transferred_receive {buffer left : Bytes} {turns : List Usb.Turn}
    {ended : Except Fault Unit} (h : Transferred (.receive buffer) turns ended left) :
    ∃ got : Except Usb.Error (Delivery buffer.size), turns = [.read 0x81 4000 buffer.size got] ∧
      ended = moved .data buffer.size (got.map Delivery.size) ∧
      left = (filled ⟨buffer, rfl⟩ got).toArray := by
  cases h with
  | receive buffer answer => exact ⟨answer, rfl, rfl, rfl⟩

theorem transferred_receive_ok {buffer content : Bytes} {turns : List Usb.Turn} :
    Transferred (.receive buffer) turns (.ok ()) content ↔
      ∃ reply : Vector UInt8 buffer.size,
        turns = [.read 0x81 4000 buffer.size (.ok (.whole reply))] ∧ content = reply.toArray := by
  constructor
  · intro h
    obtain ⟨got, rfl, hended, rfl⟩ := transferred_receive h
    obtain ⟨reply, rfl⟩ := moved_read_eq_ok.1 hended.symm
    exact ⟨reply, rfl, congrArg Vector.toArray (overlay_whole _ _)⟩
  · intro h
    obtain ⟨reply, rfl, rfl⟩ := h
    have hwhole := Transferred.receive buffer (.ok (.whole reply))
    rwa [moved_read_eq_ok.2 ⟨reply, rfl⟩, filled, overlay_whole] at hwhole

theorem conforms_receive_ok {command : CommandBlock} {buffer content : Bytes}
    {turns : List Usb.Turn} {code : UInt8} :
    Conforms command (.receive buffer) turns ⟨.ok code, content⟩ ↔
      ∃ (reply : Vector UInt8 buffer.size) (statuses : List Usb.Turn),
        turns = .wrote 0x01 1000 (envelope command (.receive buffer)).toArray (.ok 31) ::
          .read 0x81 4000 buffer.size (.ok (.whole reply)) :: statuses ∧
        content = reply.toArray ∧ Concluded 5 statuses (.ok code) := by
  constructor
  · intro h
    cases h with
    | finished sent transferred concluded =>
      obtain ⟨reply, rfl, rfl⟩ := transferred_receive_ok.1 transferred
      cases moved_eq_ok.1 sent
      exact ⟨reply, _, rfl, rfl, concluded⟩
  · intro h
    obtain ⟨reply, statuses, rfl, rfl, hconcluded⟩ := h
    exact .finished (moved_eq_ok.2 rfl) (transferred_receive_ok.2 ⟨reply, rfl, rfl⟩) hconcluded

end Exchange

namespace Frame

def queryEnvelope : Bytes :=
  (Exchange.envelope Request.parameters.block (.receive (Array.replicate 5 0))).toArray

inductive Queried : List Usb.Turn → Except Fault (Vector UInt8 5) → Prop
  | failed {turns : List Usb.Turn} {fault : Fault} {buffer : Bytes}
      (conforms : Exchange.Conforms Request.parameters.block (.receive (Array.replicate 5 0)) turns
        ⟨.error fault, buffer⟩) : Queried turns (.error fault)
  | answered {statuses : List Usb.Turn} (reply : Vector UInt8 5) (code : UInt8)
      (concluded : Exchange.Concluded 5 statuses (.ok code)) :
      Queried (.wrote 0x01 1000 queryEnvelope (.ok 31) ::
        .read 0x81 4000 5 (.ok (.whole reply)) :: statuses) (.ok reply)

variable {π : Type} [Usb.Pipe π]

/-- How a frame comes out of a pipe. Neither the fifth byte of the reply nor the code of the status
reply plays a part. -/
inductive Sized (p : π) : Except (Fault × π) (Frame π) → Prop
  | unanswered {q : π} {turns : List Usb.Turn} {fault : Fault} (dialogue : Usb.Dialogue p turns q)
      (queried : Queried turns (.error fault)) : Sized p (.error (.parameters fault, q))
  | flat {q : π} {turns : List Usb.Turn} {b0 b1 b2 b3 b4 : UInt8} {width height : UInt16}
      (dialogue : Usb.Dialogue p turns q) (queried : Queried turns (.ok #v[b0, b1, b2, b3, b4]))
      (columns : width.toNat = b0.toNat + 256 * b1.toNat)
      (rows : height.toNat = b2.toNat + 256 * b3.toNat)
      (zero : width = 0 ∨ height = 0) : Sized p (.error (.dimensions width height, q))
  | sized {q : π} {turns : List Usb.Turn} {b0 b1 b2 b3 b4 : UInt8} {width height : UInt16}
      (dialogue : Usb.Dialogue p turns q) (queried : Queried turns (.ok #v[b0, b1, b2, b3, b4]))
      (columns : width.toNat = b0.toNat + 256 * b1.toNat)
      (rows : height.toNat = b2.toNat + 256 * b3.toNat)
      (positive : 1 ≤ width ∧ 1 ≤ height) : Sized p (.ok ⟨q, width, height⟩)

theorem exists_bytes (reply : Vector UInt8 5) :
    ∃ b0 b1 b2 b3 b4, reply = #v[b0, b1, b2, b3, b4] := by
  obtain ⟨⟨bytes⟩, hsize⟩ := reply
  match bytes, hsize with
  | [b0, b1, b2, b3, b4], _ => exact ⟨b0, b1, b2, b3, b4, rfl⟩

theorem sizeIn_bytes (b0 b1 b2 b3 b4 : UInt8) :
    sizeIn #[b0, b1, b2, b3, b4] = ⟨word16 b0 b1, word16 b2 b3⟩ := by
  simp [sizeIn, PanelSize.ofReply]

theorem ofPipe_unanswered {p q : π} {turns : List Usb.Turn} {fault : Fault}
    (dialogue : Usb.Dialogue p turns q) (queried : Queried turns (.error fault)) :
    ofPipe p = .error (.parameters fault, q) := by
  cases queried with
  | failed conforms => simp only [ofPipe, conforms.run_eq dialogue]

theorem ofPipe_answered {p q : π} {turns : List Usb.Turn} {b0 b1 b2 b3 b4 : UInt8}
    (dialogue : Usb.Dialogue p turns q) (queried : Queried turns (.ok #v[b0, b1, b2, b3, b4])) :
    ofPipe p = if word16 b0 b1 = 0 ∨ word16 b2 b3 = 0 then
      .error (.dimensions (word16 b0 b1) (word16 b2 b3), q)
    else .ok ⟨q, word16 b0 b1, word16 b2 b3⟩ := by
  cases queried with
  | answered reply code concluded =>
    have hconforms : Exchange.Conforms Request.parameters.block (.receive (Array.replicate 5 0)) _
        ⟨.ok code, #v[b0, b1, b2, b3, b4].toArray⟩ :=
      Exchange.conforms_receive_ok.2 ⟨#v[b0, b1, b2, b3, b4], _, rfl, rfl, concluded⟩
    simp only [ofPipe, hconforms.run_eq dialogue, sizeIn_bytes]

theorem exists_queried (p : π) :
    ∃ turns q answer, Usb.Dialogue p turns q ∧ Queried turns answer := by
  obtain ⟨turns, hturns, hconforms⟩ :=
    Exchange.exists_conforms Request.parameters.block (.receive (Array.replicate 5 0)) p
  rcases hrun : Exchange.run Request.parameters.block (.receive (Array.replicate 5 0)) p
    with ⟨⟨result, buffer⟩, q⟩
  rw [hrun] at hturns hconforms
  cases result with
  | error fault => exact ⟨turns, q, _, hturns, .failed hconforms⟩
  | ok code =>
    obtain ⟨reply, statuses, rfl, -, hconcluded⟩ := Exchange.conforms_receive_ok.1 hconforms
    exact ⟨_, q, _, hturns, .answered reply code hconcluded⟩

theorem sized_ofPipe (p : π) : Sized p (ofPipe p) := by
  obtain ⟨turns, q, answer, hturns, hqueried⟩ := exists_queried p
  cases answer with
  | error fault =>
    rw [ofPipe_unanswered hturns hqueried]
    exact .unanswered hturns hqueried
  | ok reply =>
    obtain ⟨b0, b1, b2, b3, b4, rfl⟩ := exists_bytes reply
    rw [ofPipe_answered hturns hqueried]
    split_ifs with hnone
    · exact .flat hturns hqueried (toNat_word16 _ _) (toNat_word16 _ _) hnone
    · exact .sized hturns hqueried (toNat_word16 _ _) (toNat_word16 _ _)
        ⟨one_le_iff16.2 fun h => hnone (.inl h), one_le_iff16.2 fun h => hnone (.inr h)⟩

theorem ofPipe_eq_iff {p : π} {r : Except (Fault × π) (Frame π)} : ofPipe p = r ↔ Sized p r := by
  constructor
  · intro h
    exact h ▸ sized_ofPipe p
  · intro h
    cases h with
    | unanswered dialogue queried => exact ofPipe_unanswered dialogue queried
    | flat dialogue queried columns rows zero =>
      rw [ofPipe_answered dialogue queried, ← eq_word16 columns, ← eq_word16 rows, if_pos zero]
    | sized dialogue queried columns rows positive =>
      have hpositive : ¬ (_ ∨ _) := fun h =>
        h.elim (one_le_iff16.1 positive.1) (one_le_iff16.1 positive.2)
      rw [ofPipe_answered dialogue queried, ← eq_word16 columns, ← eq_word16 rows,
        if_neg hpositive]

theorem size_payload {pixels : Bytes} {rect : Rect} (h : rect.byteLength ≤ pixels.size) :
    (pixels.extract 0 rect.byteLength).size = rect.byteLength := by
  rw [Array.size_extract, Nat.sub_zero, Nat.min_eq_left h]

theorem blit_of_few {pixels : Bytes} {rect : Rect} (h : pixels.size < rect.byteLength)
    (frame : Frame π) :
    blit pixels rect frame = (.error (.pixelData rect.byteLength pixels.size), frame) := by
  rw [blit, if_pos h]

theorem blit_of_enough {pixels : Bytes} {rect : Rect} (h : rect.byteLength ≤ pixels.size)
    (frame : Frame π) : blit pixels rect frame =
      ((Exchange.run (Request.blit rect).block
          (.send (pixels.extract 0 rect.byteLength)) frame.pipe).1.result,
        { frame with
          pipe := (Exchange.run (Request.blit rect).block
            (.send (pixels.extract 0 rect.byteLength)) frame.pipe).2 }) := by
  rw [blit, if_neg (Nat.not_lt.2 h)]
  rfl

theorem blit_eq {pixels : Bytes} {rect : Rect} (h : pixels.size = rect.byteLength)
    (frame : Frame π) : blit pixels rect frame =
      ((Exchange.run (Request.blit rect).block (.send pixels) frame.pipe).1.result,
        { frame with
          pipe := (Exchange.run (Request.blit rect).block (.send pixels) frame.pipe).2 }) := by
  have hall : pixels.extract 0 rect.byteLength = pixels := by
    rw [← h, Array.extract_size]
  rw [blit_of_enough (Nat.le_of_eq h.symm), hall]

theorem setBacklight_eq {level : UInt16} (h : level ≤ Request.maxBrightness) (frame : Frame π) :
    setBacklight level frame =
      ((Exchange.run (Request.brightness level).block .none frame.pipe).1.result,
        { frame with
          pipe := (Exchange.run (Request.brightness level).block .none frame.pipe).2 }) := by
  rw [setBacklight, if_neg (UInt16.not_lt.2 h)]
  rfl

theorem setBacklight_of_bright {level : UInt16} (h : ¬ level ≤ Request.maxBrightness)
    (frame : Frame π) : setBacklight level frame = (.error (.backlight level), frame) := by
  rw [setBacklight, if_pos (UInt16.not_le.1 h)]

inductive Op
  | exchange (command : CommandBlock) (data : DataPhase)
  | blit (pixels : Bytes) (rect : Rect)
  | backlight (level : UInt16)

/-- Performs an operation. Only an exchange of the client's own has a buffer to fill. -/
def perform : Op → StateM (Frame π) Exchange.Outcome
  | .exchange command data => exchange command data
  | .blit pixels rect => fun frame =>
    let (result, frame) := blit pixels rect frame
    (⟨result, #[]⟩, frame)
  | .backlight level => fun frame =>
    let (result, frame) := setBacklight level frame
    (⟨result, #[]⟩, frame)

def run : List Op → StateM (Frame π) (List Exchange.Outcome)
  | [] => fun frame => ([], frame)
  | op :: rest => fun frame =>
    let (outcome, frame) := perform op frame
    let (outcomes, frame) := run rest frame
    (outcome :: outcomes, frame)

theorem exchange_reaches (command : CommandBlock) (data : DataPhase) (frame : Frame π) :
    Usb.Reaches frame.pipe (exchange command data frame).2.pipe := by
  obtain ⟨turns, hturns, -⟩ := Exchange.exists_conforms command data frame.pipe
  exact ⟨turns, hturns⟩

theorem blit_reaches (pixels : Bytes) (rect : Rect) (frame : Frame π) :
    Usb.Reaches frame.pipe (blit pixels rect frame).2.pipe := by
  rw [blit]
  split_ifs
  · exact .refl _
  · exact exchange_reaches _ _ frame

theorem setBacklight_reaches (level : UInt16) (frame : Frame π) :
    Usb.Reaches frame.pipe (setBacklight level frame).2.pipe := by
  rw [setBacklight]
  split_ifs
  · exact .refl _
  · exact exchange_reaches _ _ frame

theorem perform_reaches (op : Op) (frame : Frame π) :
    Usb.Reaches frame.pipe (perform op frame).2.pipe := by
  cases op with
  | exchange command data => exact exchange_reaches command data frame
  | blit pixels rect => exact blit_reaches pixels rect frame
  | backlight level => exact setBacklight_reaches level frame

theorem run_reaches (ops : List Op) (frame : Frame π) :
    Usb.Reaches frame.pipe (run ops frame).2.pipe := by
  induction ops generalizing frame with
  | nil => exact .refl _
  | cons op ops ih => exact (perform_reaches op frame).trans (ih (perform op frame).2)

theorem Sized.reaches_frame {p : π} {frame : Frame π} (h : Sized p (.ok frame)) :
    Usb.Reaches p frame.pipe := by
  cases h with
  | sized dialogue => exact ⟨_, dialogue⟩

theorem Sized.reaches_pipe {p q : π} {fault : Fault} (h : Sized p (.error (fault, q))) :
    Usb.Reaches p q := by
  cases h with
  | unanswered dialogue => exact ⟨_, dialogue⟩
  | flat dialogue => exact ⟨_, dialogue⟩

end Frame
end PictureFrame
