import PictureFrame.Proofs.Frame

set_option autoImplicit false

namespace PictureFrame

/-- The bytes left in a buffer: those delivered, and behind them those that it held before. -/
structure Overlaid (buffer delivered left : Bytes) : Prop where
  fits : delivered.size ≤ buffer.size
  front : ∀ i < delivered.size, left[i]? = delivered[i]?
  rest : ∀ i, delivered.size ≤ i → left[i]? = buffer[i]?

theorem overlaid_overlay {buffer : Bytes} (delivery : Delivery buffer.size) :
    Overlaid buffer delivery.val (overlay ⟨buffer, rfl⟩ delivery).toArray := by
  refine ⟨delivery.property, fun i hi => ?_, fun i hi => ?_⟩
  · exact Array.getElem?_append_left hi
  · change (delivery.val ++ buffer.extract delivery.val.size buffer.size)[i]? = buffer[i]?
    rw [Array.getElem?_append_right hi, Array.getElem?_extract, Nat.add_sub_of_le hi]
    split_ifs with hinside
    · rfl
    · exact (Array.getElem?_eq_none (by omega)).symm

namespace Exchange

def statusRead (answer : Except Usb.Error (Delivery 13)) : Usb.Turn := .read 0x81 5000 13 answer

def judged : Except Usb.Error (Delivery 13) → Except Fault UInt8
  | .error cause => .error (.transfer .status cause)
  | .ok delivery =>
    if full : delivery.size = 13 then verdict ⟨⟨delivery.val, full⟩⟩
    else .error (.short .status 13 delivery.size)

theorem judged_whole (reply : Vector UInt8 13) : judged (.ok (.whole reply)) = verdict ⟨reply⟩ :=
  dif_pos (Delivery.whole_size reply)

theorem judged_of_missed {answer : Except Usb.Error (Delivery 13)} {fault : Fault}
    (h : moved .status 13 (answer.map Delivery.size) = .error fault) :
    judged answer = .error fault := by
  cases answer with
  | error cause =>
    cases h
    rfl
  | ok delivery =>
    simp only [Except.map, moved] at h
    split_ifs at h with hsize
    cases h
    exact dif_neg hsize

theorem Concluded.judged_eq {tries : Nat} {turns : List Usb.Turn} {result : Except Fault UInt8}
    (h : Concluded tries turns result) : ∃ (earlier : List (Except Usb.Error (Delivery 13)))
      (last : Except Usb.Error (Delivery 13)),
      turns = (earlier ++ [last]).map statusRead ∧ result = judged last := by
  induction h with
  | full reply => exact ⟨[], .ok (.whole reply), rfl, (judged_whole reply).symm⟩
  | @again tries answer fault rest result missed later ih =>
    obtain ⟨earlier, last, rfl, hresult⟩ := ih
    exact ⟨answer :: earlier, last, rfl, hresult⟩
  | @last answer fault missed => exact ⟨[], answer, rfl, (judged_of_missed missed).symm⟩

/-- What is in the buffer when a number of tries begins plays no part in how they end. -/
theorem conclude_stale {π : Type} [Usb.Pipe π] (p : π) (attempt tries : Nat)
    (stale stale' : Vector UInt8 13) :
    conclude (retryFrom (fun _ => readStatus) attempt tries (p, stale)) =
      conclude (retryFrom (fun _ => readStatus) attempt tries (p, stale')) := by
  rcases hlater : conclude (retryFrom (fun _ => readStatus) attempt tries (p, stale'))
    with ⟨result, q⟩
  exact conclude_retryFrom_iff.2 (conclude_retryFrom_iff.1 hlater)

inductive OfStatus : Except Fault UInt8 → Prop
  | code (code : UInt8) : OfStatus (.ok code)
  | transfer (cause : Usb.Error) : OfStatus (.error (.transfer .status cause))
  | short (expected actual : Nat) : OfStatus (.error (.short .status expected actual))
  | signature (letters : Vector UInt8 4) : OfStatus (.error (.signature letters))

theorem ofStatus_judged (answer : Except Usb.Error (Delivery 13)) : OfStatus (judged answer) := by
  cases answer with
  | error cause => exact .transfer cause
  | ok delivery =>
    simp only [judged, verdict]
    split_ifs
    · exact .code _
    · exact .signature _
    · exact .short _ _

theorem not_ofStatus_of_moved {phase : Phase} {expected : Nat} {answer : Except Usb.Error Nat}
    {fault : Fault} (h : moved phase expected answer = .error fault) (hphase : phase ≠ .status) :
    ¬ OfStatus (.error fault) := by
  intro hstatus
  cases answer with
  | error cause =>
    cases h
    cases hstatus
    exact hphase rfl
  | ok count =>
    simp only [moved] at h
    split_ifs at h
    cases h
    cases hstatus
    exact hphase rfl

/-- In an exchange whose result is one of the status phase, the last call is a status read, and the
result follows from its answer. -/
def Judged (turns : List Usb.Turn) (result : Except Fault UInt8) : Prop :=
  OfStatus result → ∃ before answer, turns = before ++ [statusRead answer] ∧ result = judged answer

theorem not_ofStatus_of_transferred {data : DataPhase} {turns : List Usb.Turn} {buffer : Bytes}
    {ended : Except Fault Unit} (h : Transferred data turns ended buffer) {fault : Fault}
    (hfault : ended = .error fault) : ¬ OfStatus (.error fault) := by
  cases h with
  | none => cases hfault
  | send payload answer => exact not_ofStatus_of_moved hfault nofun
  | receive content answer => exact not_ofStatus_of_moved hfault nofun

theorem Conforms.judged {command : CommandBlock} {data : DataPhase} {turns : List Usb.Turn}
    {outcome : Outcome} (h : Conforms command data turns outcome) :
    Judged turns outcome.result := by
  intro hstatus
  cases h with
  | refused missed => exact absurd hstatus (not_ofStatus_of_moved missed nofun)
  | broken sent missed => exact absurd hstatus (not_ofStatus_of_transferred missed rfl)
  | @finished answer turns statuses buffer result sent transferred concluded =>
    obtain ⟨earlier, last, rfl, hresult⟩ := concluded.judged_eq
    refine ⟨.wrote 0x01 1000 (envelope command data).toArray answer ::
      (turns ++ earlier.map statusRead), last, ?_, hresult⟩
    simp

/-- An exchange whose envelope has gone out whole, by the answer to the read of its data phase and
those to its status reads. -/
structure Received (buffer : Bytes) (got : Except Usb.Error (Delivery buffer.size))
    (statuses : List (Except Usb.Error (Delivery 13))) (outcome : Outcome) : Prop where
  failed : ∀ cause, got = .error cause → outcome.buffer = buffer
  delivered : ∀ delivery, got = .ok delivery → Overlaid buffer delivery.val outcome.buffer
  whole : OfStatus outcome.result ↔ ∃ delivery, got = .ok delivery ∧ delivery.size = buffer.size
  last : OfStatus outcome.result → ∃ answer, statuses.getLast? = some answer ∧
    outcome.result = judged answer
  early : ¬ OfStatus outcome.result → statuses = []

/-- The calls of an exchange that should fill a buffer, and what is in the buffer afterwards. -/
inductive Filling (command : CommandBlock) (buffer : Bytes) : List Usb.Turn → Outcome → Prop
  | unsent {answer : Except Usb.Error Nat} {fault : Fault}
      (missed : moved .command 31 answer = .error fault) (early : ¬ OfStatus (.error fault)) :
      Filling command buffer
        [.wrote 0x01 1000 (envelope command (.receive buffer)).toArray answer]
        ⟨.error fault, buffer⟩
  | sent {got : Except Usb.Error (Delivery buffer.size)}
      {statuses : List (Except Usb.Error (Delivery 13))} {outcome : Outcome}
      (received : Received buffer got statuses outcome) : Filling command buffer
        (.wrote 0x01 1000 (envelope command (.receive buffer)).toArray (.ok 31) ::
          .read 0x81 4000 buffer.size got :: statuses.map statusRead) outcome

theorem filled_of_error {buffer : Bytes} {got : Except Usb.Error (Delivery buffer.size)}
    {cause : Usb.Error} (h : got = .error cause) : (filled ⟨buffer, rfl⟩ got).toArray = buffer := by
  rw [h]
  rfl

theorem filled_of_ok {buffer : Bytes} {got : Except Usb.Error (Delivery buffer.size)}
    {delivery : Delivery buffer.size} (h : got = .ok delivery) :
    Overlaid buffer delivery.val (filled ⟨buffer, rfl⟩ got).toArray := by
  rw [h]
  exact overlaid_overlay delivery

theorem Conforms.filling {command : CommandBlock} {buffer : Bytes} {turns : List Usb.Turn}
    {outcome : Outcome} (h : Conforms command (.receive buffer) turns outcome) :
    Filling command buffer turns outcome := by
  cases h with
  | refused missed => exact .unsent missed (not_ofStatus_of_moved missed nofun)
  | @broken _ _ fault _ sent missed =>
    have hdata := not_ofStatus_of_transferred missed rfl
    obtain ⟨got, rfl, hended, rfl⟩ := transferred_receive missed
    cases moved_eq_ok.1 sent
    have hreceived : Received buffer got [] ⟨.error fault, (filled ⟨buffer, rfl⟩ got).toArray⟩ := by
      refine ⟨fun _ => filled_of_error, fun _ => filled_of_ok,
        ⟨fun hstatus => absurd hstatus hdata, ?_⟩, fun hstatus => absurd hstatus hdata,
        fun _ => rfl⟩
      -- The phase failed, so its read was not whole.
      rintro ⟨delivery, rfl, hsize⟩
      obtain ⟨bytes, rfl⟩ := Delivery.eq_whole hsize
      rw [moved_read_eq_ok.2 ⟨bytes, rfl⟩] at hended
      cases hended
    exact .sent hreceived
  | finished sent transferred concluded =>
    obtain ⟨got, rfl, hended, rfl⟩ := transferred_receive transferred
    obtain ⟨bytes, hbytes⟩ := moved_read_eq_ok.1 hended.symm
    obtain ⟨earlier, last, rfl, rfl⟩ := concluded.judged_eq
    cases moved_eq_ok.1 sent
    refine .sent ⟨fun _ => filled_of_error, fun _ => filled_of_ok,
      ⟨fun _ => ⟨_, hbytes, Delivery.whole_size bytes⟩, fun _ => ofStatus_judged last⟩,
      fun _ => ⟨last, List.getLast?_concat, rfl⟩,
      fun hearly => absurd (ofStatus_judged last) hearly⟩

/-- Whatever the pipe answers: a buffer to be filled is left as it was if the envelope or the read
of the data phase fails, and else has the bytes of that read in front and its old ones behind them,
all of them new if the result is one of the status phase. Status reads do not touch it, and of them
only the last one decides such a result, with data in either direction. At whatever try the status
phase goes on, what earlier tries have left in its own buffer does not matter. -/
theorem buffers_left {π : Type} [Usb.Pipe π] (command : CommandBlock) (r : Usb.Recorded π) :
    (∀ buffer : Bytes, ∃ turns,
      Usb.Dialogue r.pipe turns (run command (.receive buffer) r).2.pipe ∧
      (run command (.receive buffer) r).2.calls = r.calls ++ turns.map Usb.Turn.call ∧
      Filling command buffer turns (run command (.receive buffer) r).1) ∧
    (∀ data : DataPhase, ∃ turns, Usb.Dialogue r.pipe turns (run command data r).2.pipe ∧
      (run command data r).2.calls = r.calls ++ turns.map Usb.Turn.call ∧
      Judged turns (run command data r).1.result) ∧
    (∀ (p : π) (attempt tries : Nat) (stale stale' : Vector UInt8 13),
      conclude (retryFrom (fun _ => readStatus) attempt tries (p, stale)) =
        conclude (retryFrom (fun _ => readStatus) attempt tries (p, stale'))) := by
  refine ⟨fun buffer => ?_, fun data => ?_, fun p attempt tries stale stale' => ?_⟩
  · obtain ⟨turns, hdialogue, hcalls, hconforms⟩ :=
      exists_conforms_recorded command (.receive buffer) r
    exact ⟨turns, hdialogue, hcalls, hconforms.filling⟩
  · obtain ⟨turns, hdialogue, hcalls, hconforms⟩ := exists_conforms_recorded command data r
    exact ⟨turns, hdialogue, hcalls, hconforms.judged⟩
  · exact conclude_stale p attempt tries stale stale'

end Exchange
end PictureFrame
