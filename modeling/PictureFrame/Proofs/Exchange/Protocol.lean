import Mathlib.Tactic.SplitIfs
import PictureFrame.Exchange
import PictureFrame.Proofs.Usb.Dialogue

set_option autoImplicit false

/-!
# The protocol of an exchange

The protocol lists the calls of an exchange together with answers that a pipe may give, and how the
exchange ends. Every answer is allowed: any error, any count of a write, any delivery that fits.
A run is the one exchange of the protocol that the pipe's own answers select, on every pipe.
-/
namespace PictureFrame

def Delivery.whole {n : Nat} (bytes : Vector UInt8 n) : Delivery n :=
  ⟨bytes.toArray, Nat.le_of_eq bytes.size_toArray⟩

theorem Delivery.eq_whole {n : Nat} {d : Delivery n} (h : d.size = n) : ∃ bytes, d = whole bytes :=
  ⟨⟨d.val, h⟩, rfl⟩

theorem Delivery.whole_size {n : Nat} (bytes : Vector UInt8 n) : (whole bytes).size = n :=
  bytes.size_toArray

theorem overlay_whole {n : Nat} (buffer bytes : Vector UInt8 n) :
    overlay buffer (.whole bytes) = bytes := by
  apply Vector.toArray_inj.1
  simp [overlay, Delivery.whole]

theorem overlay_nothing {n : Nat} (buffer : Vector UInt8 n) : overlay buffer .nothing = buffer := by
  apply Vector.toArray_inj.1
  simp [overlay, Delivery.nothing]

namespace Exchange

def moved (phase : Phase) (expected : Nat) : Except Usb.Error Nat → Except Fault Unit
  | .error cause => .error (.transfer phase cause)
  | .ok count => if count = expected then .ok () else .error (.short phase expected count)

def filled {n : Nat} (buffer : Vector UInt8 n) : Except Usb.Error (Delivery n) → Vector UInt8 n
  | .error _ => buffer
  | .ok delivery => overlay buffer delivery

def verdict (reply : Status) : Except Fault UInt8 :=
  if reply.signature.toList = [0x55, 0x53, 0x42, 0x53] then .ok reply.code
  else .error (.signature reply.signature)

/-- The data phase, how it ends, and the buffer that it leaves. -/
inductive Transferred : DataPhase → List Usb.Turn → Except Fault Unit → Bytes → Prop
  | none : Transferred .none [] (.ok ()) #[]
  | send (payload : Bytes) (answer : Except Usb.Error Nat) :
      Transferred (.send payload) [.wrote 0x01 3000 payload answer]
        (moved .data payload.size answer) #[]
  | receive (buffer : Bytes) (answer : Except Usb.Error (Delivery buffer.size)) :
      Transferred (.receive buffer) [.read 0x81 4000 buffer.size answer]
        (moved .data buffer.size (answer.map Delivery.size)) (filled ⟨buffer, rfl⟩ answer).toArray

/-- The status phase with so many tries left. Only the last failure counts, and a full reply ends
the phase whatever its letters are. -/
inductive Concluded : Nat → List Usb.Turn → Except Fault UInt8 → Prop
  | full {tries : Nat} (reply : Vector UInt8 13) :
      Concluded (tries + 1) [.read 0x81 5000 13 (.ok (.whole reply))] (verdict ⟨reply⟩)
  | again {tries : Nat} {answer : Except Usb.Error (Delivery 13)} {fault : Fault}
      {rest : List Usb.Turn} {result : Except Fault UInt8}
      (missed : moved .status 13 (answer.map Delivery.size) = .error fault)
      (later : Concluded (tries + 1) rest result) :
      Concluded (tries + 2) (.read 0x81 5000 13 answer :: rest) result
  | last {answer : Except Usb.Error (Delivery 13)} {fault : Fault}
      (missed : moved .status 13 (answer.map Delivery.size) = .error fault) :
      Concluded 1 [.read 0x81 5000 13 answer] (.error fault)

/-- The calls and answers of an exchange, how it ends, and the buffer that it leaves. -/
inductive Conforms (command : CommandBlock) (data : DataPhase) : List Usb.Turn → Outcome → Prop
  | refused {answer : Except Usb.Error Nat} {fault : Fault}
      (missed : moved .command 31 answer = .error fault) :
      Conforms command data [.wrote 0x01 1000 (envelope command data).toArray answer]
        ⟨.error fault, data.buffer⟩
  | broken {answer : Except Usb.Error Nat} {turns : List Usb.Turn} {fault : Fault} {buffer : Bytes}
      (sent : moved .command 31 answer = .ok ())
      (missed : Transferred data turns (.error fault) buffer) :
      Conforms command data (.wrote 0x01 1000 (envelope command data).toArray answer :: turns)
        ⟨.error fault, buffer⟩
  | finished {answer : Except Usb.Error Nat} {turns statuses : List Usb.Turn} {buffer : Bytes}
      {result : Except Fault UInt8} (sent : moved .command 31 answer = .ok ())
      (transferred : Transferred data turns (.ok ()) buffer)
      (concluded : Concluded 5 statuses result) :
      Conforms command data
        (.wrote 0x01 1000 (envelope command data).toArray answer :: (turns ++ statuses))
        ⟨result, buffer⟩

variable {π : Type} [Usb.Pipe π]

theorem send_eq (phase : Phase) (timeout : Nat) (bytes : Bytes) (p : π) :
    send phase timeout bytes p =
      (moved phase bytes.size (Usb.Pipe.write 0x01 timeout bytes p).1,
        (Usb.Pipe.write 0x01 timeout bytes p).2) := by
  simp only [send, Usb.outEndpoint]
  rcases Usb.Pipe.write 0x01 timeout bytes p with ⟨answer, q⟩
  cases answer with
  | error cause => rfl
  | ok count =>
    simp only [moved]
    split_ifs <;> rfl

theorem receive_eq {n : Nat} (phase : Phase) (timeout : Nat) (buffer : Vector UInt8 n) (p : π) :
    receive phase timeout buffer p =
      ((moved phase n ((Usb.Pipe.read 0x81 timeout n p).1.map Delivery.size),
        filled buffer (Usb.Pipe.read 0x81 timeout n p).1),
        (Usb.Pipe.read 0x81 timeout n p).2) := by
  simp only [receive, take, Usb.inEndpoint]
  rcases Usb.Pipe.read 0x81 timeout n p with ⟨answer, q⟩
  cases answer with
  | error cause =>
    simp only [overlay_nothing]
    rfl
  | ok delivery =>
    simp only [moved, filled, Except.map]
    split_ifs <;> rfl

theorem transferData_eq_iff {data : DataPhase} {p q : π} {result : Except Fault Unit}
    {buffer : Bytes} : transferData data p = ((result, buffer), q) ↔
      ∃ turns, Usb.Dialogue p turns q ∧ Transferred data turns result buffer := by
  cases data with
  | none =>
    constructor
    · intro h
      cases h
      exact ⟨[], rfl, .none⟩
    · intro h
      obtain ⟨turns, hturns, htransferred⟩ := h
      cases htransferred
      cases hturns
      rfl
  | send payload =>
    simp only [transferData, send_eq, sendTimeout]
    constructor
    · intro h
      cases h
      refine ⟨_, ?_, .send payload _⟩
      exact ⟨rfl, rfl⟩
    · intro h
      obtain ⟨turns, hturns, htransferred⟩ := h
      cases htransferred
      obtain ⟨rfl, rfl⟩ := hturns
      rfl
  | receive content =>
    simp only [transferData, receive_eq, receiveTimeout]
    constructor
    · intro h
      cases h
      refine ⟨_, ?_, .receive content _⟩
      exact ⟨rfl, rfl⟩
    · intro h
      obtain ⟨turns, hturns, htransferred⟩ := h
      cases htransferred
      obtain ⟨rfl, rfl⟩ := hturns
      rfl

def conclude : Except Fault Unit × π × Vector UInt8 13 → Except Fault UInt8 × π
  | (.error fault, p, _) => (.error fault, p)
  | (.ok (), p, reply) => (verdict ⟨reply⟩, p)

theorem verdict_eq (reply : Status) : verdict reply =
    if reply.isValid then .ok reply.code else .error (.signature reply.signature) := by
  have hletters : reply.signature.toList = [0x55, 0x53, 0x42, 0x53] ↔ reply.isValid := by
    rw [Status.isValid, decide_eq_true_iff, ← Vector.toList_inj]
    rfl
  simp only [verdict, hletters]

theorem status_eq (p : π) : status p =
    conclude (retryFrom (fun _ => readStatus) 1 4 (p, Vector.replicate 13 0)) := by
  simp only [status, retry, statusAttempts]
  rcases retryFrom (fun _ => readStatus) 1 (5 - 1) (p, Vector.replicate 13 0)
    with ⟨outcome, q, reply⟩
  cases outcome with
  | error fault => rfl
  | ok done =>
    simp only [conclude, verdict_eq]
    split_ifs <;> rfl

theorem readStatus_eq (p : π) (buffer : Vector UInt8 13) : readStatus (p, buffer) =
    (moved .status 13 ((Usb.Pipe.read 0x81 5000 13 p).1.map Delivery.size),
      (Usb.Pipe.read 0x81 5000 13 p).2, filled buffer (Usb.Pipe.read 0x81 5000 13 p).1) := by
  simp only [readStatus, receive_eq, statusTimeout]

theorem moved_read_eq_ok {phase : Phase} {n : Nat} {answer : Except Usb.Error (Delivery n)} :
    moved phase n (answer.map Delivery.size) = .ok () ↔ ∃ bytes, answer = .ok (.whole bytes) := by
  constructor
  · intro h
    cases answer with
    | error cause => cases h
    | ok delivery =>
      simp only [Except.map, moved] at h
      split_ifs at h with hsize
      obtain ⟨bytes, rfl⟩ := Delivery.eq_whole hsize
      exact ⟨bytes, rfl⟩
  · intro h
    obtain ⟨bytes, rfl⟩ := h
    exact if_pos (Delivery.whole_size bytes)

section Tries

variable {p q : π} {tries : Nat} {result : Except Fault UInt8}

theorem concluded_of_full {reply : Vector UInt8 13}
    (h : (Usb.Pipe.read 0x81 5000 13 p).1 = .ok (.whole reply)) :
    (∃ turns, Usb.Dialogue p turns q ∧ Concluded (tries + 1) turns result) ↔
      verdict ⟨reply⟩ = result ∧ (Usb.Pipe.read 0x81 5000 13 p).2 = q := by
  constructor
  · intro hex
    obtain ⟨turns, hturns, hconcluded⟩ := hex
    cases hconcluded with
    | full bytes =>
      obtain ⟨hanswer, rfl⟩ := hturns
      rw [h] at hanswer
      cases Vector.toArray_inj.1 (congrArg Subtype.val (Except.ok.inj hanswer))
      exact ⟨rfl, rfl⟩
    | again missed later =>
      rw [← hturns.1, moved_read_eq_ok.2 ⟨reply, h⟩] at missed
      cases missed
    | last missed =>
      rw [← hturns.1, moved_read_eq_ok.2 ⟨reply, h⟩] at missed
      cases missed
  · intro hresult
    obtain ⟨rfl, rfl⟩ := hresult
    refine ⟨_, ?_, .full reply⟩
    exact ⟨h, rfl⟩

theorem concluded_of_last {fault : Fault}
    (h : moved .status 13 ((Usb.Pipe.read 0x81 5000 13 p).1.map Delivery.size) = .error fault) :
    (∃ turns, Usb.Dialogue p turns q ∧ Concluded 1 turns result) ↔
      .error fault = result ∧ (Usb.Pipe.read 0x81 5000 13 p).2 = q := by
  constructor
  · intro hex
    obtain ⟨turns, hturns, hconcluded⟩ := hex
    cases hconcluded with
    | full bytes =>
      rw [moved_read_eq_ok.2 ⟨bytes, hturns.1⟩] at h
      cases h
    | last missed =>
      rw [hturns.1, missed] at h
      cases h
      exact ⟨rfl, hturns.2.symm⟩
  · intro hresult
    obtain ⟨rfl, rfl⟩ := hresult
    refine ⟨_, ?_, .last h⟩
    exact ⟨rfl, rfl⟩

theorem concluded_of_again {fault : Fault}
    (h : moved .status 13 ((Usb.Pipe.read 0x81 5000 13 p).1.map Delivery.size) = .error fault) :
    (∃ turns, Usb.Dialogue p turns q ∧ Concluded (tries + 2) turns result) ↔
      ∃ turns, Usb.Dialogue (Usb.Pipe.read 0x81 5000 13 p).2 turns q ∧
        Concluded (tries + 1) turns result := by
  constructor
  · intro hex
    obtain ⟨turns, hturns, hconcluded⟩ := hex
    cases hconcluded with
    | full bytes =>
      rw [moved_read_eq_ok.2 ⟨bytes, hturns.1⟩] at h
      cases h
    | again missed later => exact ⟨_, hturns.2, later⟩
  · intro hex
    obtain ⟨turns, hturns, hconcluded⟩ := hex
    refine ⟨_, ?_, .again h hconcluded⟩
    exact ⟨rfl, hturns⟩

/-- The tries share one buffer, of which a full reply leaves nothing. -/
theorem conclude_retryFrom_iff {attempt : Nat} {buffer : Vector UInt8 13} :
    conclude (retryFrom (fun _ => readStatus) attempt tries (p, buffer)) = (result, q) ↔
      ∃ turns, Usb.Dialogue p turns q ∧ Concluded (tries + 1) turns result := by
  induction tries generalizing attempt p buffer with
  | zero =>
    rw [retryFrom, readStatus_eq]
    cases hmoved : moved .status 13 ((Usb.Pipe.read 0x81 5000 13 p).1.map Delivery.size) with
    | ok done =>
      obtain ⟨reply, hreply⟩ := moved_read_eq_ok.1 hmoved
      rw [concluded_of_full hreply, hreply, filled, overlay_whole, conclude, Prod.mk.injEq]
    | error fault => rw [concluded_of_last hmoved, conclude, Prod.mk.injEq]
  | succ tries ih =>
    simp only [retryFrom, readStatus_eq]
    cases hmoved : moved .status 13 ((Usb.Pipe.read 0x81 5000 13 p).1.map Delivery.size) with
    | ok done =>
      obtain ⟨reply, hreply⟩ := moved_read_eq_ok.1 hmoved
      rw [concluded_of_full hreply, hreply, filled, overlay_whole, conclude, Prod.mk.injEq]
    | error fault =>
      rw [concluded_of_again hmoved]
      exact ih

end Tries

theorem status_eq_iff {p q : π} {result : Except Fault UInt8} : status p = (result, q) ↔
    ∃ turns, Usb.Dialogue p turns q ∧ Concluded 5 turns result := by
  rw [status_eq]
  exact conclude_retryFrom_iff

variable {command : CommandBlock} {data : DataPhase}

theorem run_eq (p : π) : run command data p =
    match moved .command 31 (Usb.Pipe.write 0x01 1000 (envelope command data).toArray p).1 with
    | .error fault => (⟨.error fault, data.buffer⟩,
        (Usb.Pipe.write 0x01 1000 (envelope command data).toArray p).2)
    | .ok () =>
      match transferData data (Usb.Pipe.write 0x01 1000 (envelope command data).toArray p).2 with
      | ((.error fault, buffer), q) => (⟨.error fault, buffer⟩, q)
      | ((.ok (), buffer), q) => (⟨(status q).1, buffer⟩, (status q).2) := by
  simp only [run, around, send_eq, Vector.size_toArray, commandTimeout]
  rcases Usb.Pipe.write 0x01 1000 (envelope command data).toArray p with ⟨answer, q⟩
  cases moved .command 31 answer with
  | error fault => rfl
  | ok done =>
    dsimp only
    rcases transferData data q with ⟨⟨ended, buffer⟩, r⟩
    cases ended <;> rfl

theorem around_map {β γ : Type} (f : β → γ) (envelope : EnvelopeBytes) (before : β)
    (transfer : StateM π (Except Fault Unit × β)) (p : π) :
    around envelope (f before)
        (fun q => (((transfer q).1.1, f (transfer q).1.2), (transfer q).2)) p =
      (((around envelope before transfer p).1.1, f (around envelope before transfer p).1.2),
        (around envelope before transfer p).2) := by
  simp only [around]
  rcases send .command commandTimeout envelope.toArray p with ⟨sent, q⟩
  cases sent with
  | error fault => rfl
  | ok done =>
    dsimp only
    rcases transfer q with ⟨⟨ended, left⟩, r⟩
    cases ended <;> rfl

/-- The content of a buffer plays no part in an exchange that fills it. -/
theorem run_receive_eq_fetch (command : CommandBlock) (buffer : Bytes) (p : π) :
    run command (.receive buffer) p =
      (⟨(fetch command buffer.size p).1.1,
        (overlay ⟨buffer, rfl⟩ (fetch command buffer.size p).1.2).toArray⟩,
        (fetch command buffer.size p).2) := by
  have hmap := around_map (fun delivery => (overlay ⟨buffer, rfl⟩ delivery).toArray)
    (envelope command (.receive buffer)) .nothing (take .data receiveTimeout buffer.size) p
  rw [overlay_nothing] at hmap
  exact congrArg (fun r => ((⟨r.1.1, r.1.2⟩ : Outcome), r.2)) hmap

theorem exists_conforms (command : CommandBlock) (data : DataPhase) (p : π) :
    ∃ turns, Usb.Dialogue p turns (run command data p).2 ∧
      Conforms command data turns (run command data p).1 := by
  rw [run_eq]
  cases hsent : moved .command 31
      (Usb.Pipe.write 0x01 1000 (envelope command data).toArray p).1 with
  | error fault =>
    refine ⟨_, ?_, .refused hsent⟩
    exact ⟨rfl, rfl⟩
  | ok done =>
    rcases hdata : transferData data
        (Usb.Pipe.write 0x01 1000 (envelope command data).toArray p).2 with ⟨⟨ended, buffer⟩, q⟩
    obtain ⟨turns, hturns, htransferred⟩ := transferData_eq_iff.1 hdata
    cases ended with
    | error fault =>
      refine ⟨_, ?_, .broken hsent htransferred⟩
      exact ⟨rfl, hturns⟩
    | ok done =>
      obtain ⟨statuses, hstatuses, hconcluded⟩ := status_eq_iff.1 (Eq.refl (status q))
      refine ⟨_, ?_, .finished hsent htransferred hconcluded⟩
      exact ⟨rfl, Usb.dialogue_append.2 ⟨q, hturns, hstatuses⟩⟩

theorem exists_conforms_recorded (command : CommandBlock) (data : DataPhase) (r : Usb.Recorded π) :
    ∃ turns, Usb.Dialogue r.pipe turns (run command data r).2.pipe ∧
      (run command data r).2.calls = r.calls ++ turns.map Usb.Turn.call ∧
      Conforms command data turns (run command data r).1 := by
  obtain ⟨turns, hturns, hconforms⟩ := exists_conforms command data r
  obtain ⟨hdialogue, hcalls⟩ := Usb.dialogue_recorded.1 hturns
  exact ⟨turns, hdialogue, hcalls, hconforms⟩

theorem Conforms.run_eq {p q : π} {turns : List Usb.Turn} {outcome : Outcome}
    (h : Conforms command data turns outcome) (hturns : Usb.Dialogue p turns q) :
    run command data p = (outcome, q) := by
  rw [Exchange.run_eq]
  cases h with
  | refused missed =>
    obtain ⟨hanswer, rfl⟩ := hturns
    simp only [hanswer, missed]
  | broken sent missed =>
    obtain ⟨hanswer, hturns⟩ := hturns
    simp only [hanswer, sent, transferData_eq_iff.2 ⟨_, hturns, missed⟩]
  | finished sent transferred concluded =>
    obtain ⟨hanswer, hturns⟩ := hturns
    obtain ⟨r, hdata, hstatus⟩ := Usb.dialogue_append.1 hturns
    simp only [hanswer, sent, transferData_eq_iff.2 ⟨_, hdata, transferred⟩,
      status_eq_iff.2 ⟨_, hstatus, concluded⟩]

inductive Trouble : Fault → Prop
  | transfer (phase : Phase) (cause : Usb.Error) : Trouble (.transfer phase cause)
  | short (phase : Phase) (expected actual : Nat) : Trouble (.short phase expected actual)
  | signature (letters : Vector UInt8 4) : Trouble (.signature letters)

theorem trouble_of_moved {phase : Phase} {expected : Nat} {answer : Except Usb.Error Nat}
    {fault : Fault} (h : moved phase expected answer = .error fault) : Trouble fault := by
  cases answer with
  | error cause =>
    cases h
    exact .transfer phase cause
  | ok count =>
    simp only [moved] at h
    split_ifs at h
    cases h
    exact .short phase expected count

theorem trouble_of_transferred {data : DataPhase} {turns : List Usb.Turn} {buffer : Bytes}
    {ended : Except Fault Unit} (h : Transferred data turns ended buffer) {fault : Fault}
    (hfault : ended = .error fault) : Trouble fault := by
  cases h with
  | none => cases hfault
  | send payload answer => exact trouble_of_moved hfault
  | receive content answer => exact trouble_of_moved hfault

theorem trouble_of_concluded {tries : Nat} {turns : List Usb.Turn} {result : Except Fault UInt8}
    (h : Concluded tries turns result) {fault : Fault} (hfault : result = .error fault) :
    Trouble fault := by
  induction h with
  | full reply =>
    simp only [verdict] at hfault
    split_ifs at hfault
    cases hfault
    exact .signature _
  | again missed later ih => exact ih hfault
  | last missed =>
    cases hfault
    exact trouble_of_moved missed

theorem Conforms.trouble {command : CommandBlock} {data : DataPhase} {turns : List Usb.Turn}
    {outcome : Outcome} (h : Conforms command data turns outcome) {fault : Fault}
    (hfault : outcome.result = .error fault) : Trouble fault := by
  cases h with
  | refused missed =>
    cases hfault
    exact trouble_of_moved missed
  | broken sent missed =>
    cases hfault
    exact trouble_of_transferred missed rfl
  | finished sent transferred concluded => exact trouble_of_concluded concluded hfault

end Exchange
end PictureFrame
