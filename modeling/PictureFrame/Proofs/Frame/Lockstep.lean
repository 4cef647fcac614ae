import PictureFrame.Proofs.Frame

set_option autoImplicit false

/-!
# Operations in step with their replies

A frame that works answers every operation that reaches it: with the data that was asked for, after
at most four status reads that come to nothing, and with one full status reply. However many reads
each answer takes, a list of operations then takes its own answers in order and leaves nothing
behind, and an operation with bad arguments does not touch the pipe at all.
-/
namespace PictureFrame

namespace Usb

/-- A pipe with whole writes, whose reads are answered from a queue. -/
class QueuedPipe (π : Type) extends Pipe π where
  queue : π → List (Except Error Bytes)
  write_whole : ∀ (endpoint : UInt8) (timeout : Nat) (bytes : Bytes) (p : π),
    ∃ q, write endpoint timeout bytes p = (.ok bytes.size, q) ∧ queue q = queue p
  read_next : ∀ (endpoint : UInt8) (timeout room : Nat) (p : π) (answer : Except Error Bytes)
    (rest : List (Except Error Bytes)), queue p = answer :: rest →
      ∃ q, read endpoint timeout room p = (answer.map (.cut room), q) ∧ queue q = rest

instance {π : Type} [QueuedPipe π] : QueuedPipe (Recorded π) where
  toPipe := inferInstance
  queue r := QueuedPipe.queue r.pipe
  write_whole endpoint timeout bytes r := by
    obtain ⟨q, hwrite, hqueue⟩ := QueuedPipe.write_whole endpoint timeout bytes r.pipe
    refine ⟨⟨q, r.calls ++ [.write endpoint timeout bytes]⟩, ?_, hqueue⟩
    rw [write_recorded, hwrite]
  read_next endpoint timeout room r answer rest h := by
    obtain ⟨q, hread, hqueue⟩ := QueuedPipe.read_next endpoint timeout room r.pipe answer rest h
    refine ⟨⟨q, r.calls ++ [.read endpoint timeout room]⟩, ?_, hqueue⟩
    rw [read_recorded, hread]

namespace Script

def Whole (s : Script) : Prop := ∀ written ∈ s.writes, written = .ok .all

theorem Whole.write_eq {s : Script} (h : s.Whole) (bytes : Bytes) :
    write bytes s = (.ok bytes.size, { s with writes := s.writes.tail }) := by
  obtain ⟨reads, writes⟩ := s
  cases writes with
  | nil => rfl
  | cons written writes =>
    cases h written List.mem_cons_self
    rfl

theorem Whole.write {s : Script} (h : s.Whole) (bytes : Bytes) : (write bytes s).2.Whole := by
  rw [h.write_eq]
  exact fun written hmem => h written (List.mem_of_mem_tail hmem)

theorem Whole.read {s : Script} (h : s.Whole) (room : Nat) : (read room s).2.Whole := by
  obtain ⟨reads, writes⟩ := s
  rcases reads with _ | ⟨_ | bytes, reads⟩
  · exact h
  · exact h
  · exact h

instance : QueuedPipe { s : Script // s.Whole } where
  write _ _ bytes := fun s =>
    ((write bytes s.val).1, ⟨(write bytes s.val).2, s.property.write bytes⟩)
  read _ _ room := fun s => ((read room s.val).1, ⟨(read room s.val).2, s.property.read room⟩)
  queue s := s.val.reads
  write_whole _ _ bytes s := by
    have hwrite := s.property.write_eq bytes
    refine ⟨⟨(write bytes s.val).2, s.property.write bytes⟩, ?_, ?_⟩
    · have hcount : (write bytes s.val).1 = .ok bytes.size := by rw [hwrite]
      exact Prod.ext hcount rfl
    · change (write bytes s.val).2.reads = s.val.reads
      rw [hwrite]
  read_next _ _ room s answer rest h := by
    refine ⟨⟨(read room s.val).2, s.property.read room⟩, ?_, ?_⟩
    · obtain ⟨⟨reads, writes⟩, hwhole⟩ := s
      cases h
      cases answer <;> rfl
    · obtain ⟨⟨reads, writes⟩, hwhole⟩ := s
      cases h
      cases answer <;> rfl

end Script
end Usb

theorem Delivery.cut_eq_whole {n : Nat} {bytes : Bytes} (h : n ≤ bytes.size) :
    ∃ front : Vector UInt8 n, cut n bytes = whole front ∧ front.toArray = bytes.extract 0 n := by
  refine ⟨⟨bytes.extract 0 n, ?_⟩, rfl, rfl⟩
  rw [Array.size_extract]
  omega

namespace Exchange

/-- At least thirteen bytes, with the letters `USBS` in front and the code behind eight more. -/
structure FullReply (bytes : Bytes) (code : UInt8) : Prop where
  size : 13 ≤ bytes.size
  letters : bytes.extract 0 4 = #[0x55, 0x53, 0x42, 0x53]
  code : bytes[12]? = some code

def Useless (answer : Except Usb.Error Bytes) : Prop :=
  ∀ bytes, answer = .ok bytes → bytes.size < 13

/-- What arrives in the data phase, and what the buffer holds afterwards. -/
inductive Delivered : DataPhase → List (Except Usb.Error Bytes) → Bytes → Prop
  | none : Delivered .none [] #[]
  | send (payload : Bytes) : Delivered (.send payload) [] #[]
  | receive {buffer reply : Bytes} (enough : buffer.size ≤ reply.size) :
      Delivered (.receive buffer) [.ok reply] (reply.extract 0 buffer.size)

def dataCalls : DataPhase → List Usb.Transfer
  | .none => []
  | .send payload => [.write 0x01 3000 payload]
  | .receive buffer => [.read 0x81 4000 buffer.size]

/-- The calls of an exchange whose status reply is read after so many tries that fail. -/
def calls (command : CommandBlock) (data : DataPhase) (failed : Nat) : List Usb.Transfer :=
  .write 0x01 1000 (envelope command data).toArray ::
    (dataCalls data ++ List.replicate (failed + 1) (.read 0x81 5000 13))

/-- What arrives for an exchange that works, the calls that it takes, and how it ends. -/
inductive Answered (command : CommandBlock) (data : DataPhase) :
    List (Except Usb.Error Bytes) → List Usb.Transfer → Outcome → Prop
  | intro {arrived useless : List (Except Usb.Error Bytes)} {content reply : Bytes} {code : UInt8}
      (delivered : Delivered data arrived content) (few : useless.length ≤ 4)
      (failed : ∀ answer ∈ useless, Useless answer) (full : FullReply reply code) :
      Answered command data (arrived ++ (useless ++ [.ok reply]))
        (calls command data useless.length) ⟨.ok code, content⟩

theorem FullReply.verdict_eq {bytes : Bytes} {code : UInt8} (h : FullReply bytes code)
    {front : Vector UInt8 13} (hfront : front.toArray = bytes.extract 0 13) :
    verdict ⟨front⟩ = .ok code := by
  have hsize := h.size
  have hget : ∀ (i : Nat) (hi : i < 13) (b : UInt8), bytes[i]? = some b → front[i] = b := by
    intro i hi b hb
    have hextract : front.toArray[i]? = some b := by
      rw [hfront, Array.getElem?_extract, if_pos (by omega), Nat.zero_add, hb]
    exact (Array.getElem?_eq_some_iff.1 hextract).2
  have hletter : ∀ i < 4, bytes[i]? = (#[0x55, 0x53, 0x42, 0x53] : Bytes)[i]? := by
    intro i hi
    rw [← h.letters, Array.getElem?_extract, if_pos (by omega), Nat.zero_add]
  have hsignature : (⟨front⟩ : Status).signature.toList = [0x55, 0x53, 0x42, 0x53] := by
    change [front[0], front[1], front[2], front[3]] = _
    rw [hget 0 (by omega) 0x55 (hletter 0 (by omega)),
      hget 1 (by omega) 0x53 (hletter 1 (by omega)),
      hget 2 (by omega) 0x42 (hletter 2 (by omega)),
      hget 3 (by omega) 0x53 (hletter 3 (by omega))]
  rw [verdict, if_pos hsignature]
  exact congrArg Except.ok (hget 12 (by omega) code h.code)

theorem Useless.moved_eq {answer : Except Usb.Error Bytes} (h : Useless answer) :
    ∃ fault,
      moved .status 13 ((answer.map (Delivery.cut 13)).map Delivery.size) = .error fault := by
  cases answer with
  | error cause => exact ⟨_, rfl⟩
  | ok bytes =>
    have hshort := h bytes rfl
    have hsize : (Delivery.cut 13 bytes).size = bytes.size := by
      change (bytes.extract 0 13).size = _
      rw [Array.size_extract]
      omega
    refine ⟨_, if_neg ?_⟩
    rw [hsize]
    omega

section Queue

open Usb.QueuedPipe (queue)

variable {π : Type} [Usb.QueuedPipe π] {p : π} {rest : List (Except Usb.Error Bytes)}

theorem transferred_of_queue {data : DataPhase} {arrived : List (Except Usb.Error Bytes)}
    {content : Bytes} (h : Delivered data arrived content) (hqueue : queue p = arrived ++ rest) :
    ∃ turns q, Usb.Dialogue p turns q ∧ Transferred data turns (.ok ()) content ∧
      queue q = rest ∧ turns.map Usb.Turn.call = dataCalls data := by
  cases h with
  | none => exact ⟨[], p, rfl, .none, hqueue, rfl⟩
  | send payload =>
    obtain ⟨q, hwrite, hrest⟩ := Usb.QueuedPipe.write_whole 0x01 3000 payload p
    have hsent : moved .data payload.size (.ok payload.size) = .ok () := if_pos rfl
    refine ⟨[.wrote 0x01 3000 payload (.ok payload.size)], q, ?_, ?_, hrest.trans hqueue, rfl⟩
    · simp only [Usb.Dialogue, hwrite, and_self]
    · rw [← hsent]
      exact .send payload _
  | @receive buffer reply enough =>
    obtain ⟨q, hread, hrest⟩ := Usb.QueuedPipe.read_next 0x81 4000 buffer.size p _ _ hqueue
    obtain ⟨front, hcut, hfront⟩ := Delivery.cut_eq_whole enough
    refine ⟨[.read 0x81 4000 buffer.size (.ok (.whole front))], q, ?_, ?_, hrest, rfl⟩
    · simp only [Usb.Dialogue, hread, Except.map, hcut, and_self]
    · exact transferred_receive_ok.2 ⟨front, rfl, hfront.symm⟩

theorem concluded_of_queue {useless : List (Except Usb.Error Bytes)} {reply : Bytes} {code : UInt8}
    {tries : Nat} (few : useless.length < tries) (failed : ∀ answer ∈ useless, Useless answer)
    (full : FullReply reply code) (hqueue : queue p = useless ++ .ok reply :: rest) :
    ∃ turns q, Usb.Dialogue p turns q ∧ Concluded tries turns (.ok code) ∧ queue q = rest ∧
      turns.map Usb.Turn.call = List.replicate (useless.length + 1) (.read 0x81 5000 13) := by
  induction useless generalizing p tries with
  | nil =>
    obtain ⟨tries, rfl⟩ := Nat.exists_eq_succ_of_ne_zero (Nat.ne_of_gt few)
    obtain ⟨q, hread, hrest⟩ := Usb.QueuedPipe.read_next 0x81 5000 13 p _ _ hqueue
    obtain ⟨front, hcut, hfront⟩ := Delivery.cut_eq_whole full.size
    refine ⟨[.read 0x81 5000 13 (.ok (.whole front))], q, ?_, ?_, hrest, rfl⟩
    · simp only [Usb.Dialogue, hread, Except.map, hcut, and_self]
    · rw [← full.verdict_eq hfront]
      exact .full front
  | cons answer useless ih =>
    rw [List.length_cons] at few
    obtain ⟨tries, rfl⟩ : ∃ more, tries = more + 2 := ⟨tries - 2, by omega⟩
    obtain ⟨q, hread, hlater⟩ := Usb.QueuedPipe.read_next 0x81 5000 13 p _ _ hqueue
    obtain ⟨fault, hmissed⟩ := (failed answer List.mem_cons_self).moved_eq
    obtain ⟨turns, r, hturns, hconcluded, hrest, hcalls⟩ := ih (Nat.lt_of_succ_lt_succ few)
      (fun other hmem => failed other (List.mem_cons_of_mem answer hmem)) hlater
    refine ⟨.read 0x81 5000 13 (answer.map (.cut 13)) :: turns, r, ?_, .again hmissed hconcluded,
      hrest, ?_⟩
    · simp only [Usb.Dialogue, hread, true_and]
      exact hturns
    · rw [List.map_cons, hcalls, List.length_cons, List.replicate_succ (n := useless.length + 1)]
      rfl

theorem Answered.run_eq {command : CommandBlock} {data : DataPhase}
    {arrivals : List (Except Usb.Error Bytes)} {made : List Usb.Transfer} {outcome : Outcome}
    (h : Answered command data arrivals made outcome) {r : Usb.Recorded π}
    (hqueue : queue r = arrivals ++ rest) : ∃ after : Usb.Recorded π,
      run command data r = (outcome, after) ∧ queue after = rest ∧
        after.calls = r.calls ++ made := by
  cases h with
  | @intro arrived useless content reply code delivered few failed full =>
    rw [List.append_assoc, List.append_assoc] at hqueue
    obtain ⟨r₁, hwrite, hqueue₁⟩ :=
      Usb.QueuedPipe.write_whole 0x01 1000 (envelope command data).toArray r
    obtain ⟨turns, r₂, hturns, htransferred, hqueue₂, hdata⟩ :=
      transferred_of_queue delivered (hqueue₁.trans hqueue)
    obtain ⟨statuses, r₃, hstatuses, hconcluded, hqueue₃, hstatus⟩ :=
      concluded_of_queue (Nat.lt_succ_of_le few) failed full hqueue₂
    have hsent : moved .command 31 (.ok (envelope command data).toArray.size) = .ok () := by
      rw [Vector.size_toArray]
      rfl
    have hconforms : Conforms command data _ _ := .finished hsent htransferred hconcluded
    have hdialogue : Usb.Dialogue r (.wrote 0x01 1000 (envelope command data).toArray
        (.ok (envelope command data).toArray.size) :: (turns ++ statuses)) r₃ := by
      simp only [Usb.Dialogue, hwrite, true_and]
      exact Usb.dialogue_append.2 ⟨r₂, hturns, hstatuses⟩
    refine ⟨r₃, hconforms.run_eq hdialogue, hqueue₃, ?_⟩
    rw [(Usb.dialogue_recorded.1 hdialogue).2, List.map_cons, List.map_append, hdata, hstatus]
    rfl

end Queue

theorem Delivered.eq_empty {data : DataPhase} {arrived : List (Except Usb.Error Bytes)}
    {content : Bytes} (h : Delivered data arrived content)
    (hdata : data = .none ∨ ∃ payload, data = .send payload) : content = #[] := by
  cases h with
  | none => rfl
  | send payload => rfl
  | receive enough =>
    rcases hdata with hnone | ⟨payload, hsend⟩
    · cases hnone
    · cases hsend

end Exchange

namespace Frame

inductive Op.Rejected : Op → Fault → Prop
  | blit {pixels : Bytes} {rect : Rect} (few : pixels.size < rect.byteLength) :
      Rejected (.blit pixels rect) (.pixelData rect.byteLength pixels.size)
  | backlight {level : UInt16} (above : 7 < level) : Rejected (.backlight level) (.backlight level)

inductive Op.Exchanges : Op → CommandBlock → DataPhase → Prop
  | exchange (command : CommandBlock) (data : DataPhase) :
      Exchanges (.exchange command data) command data
  | blit {pixels : Bytes} {rect : Rect} (enough : rect.byteLength ≤ pixels.size) :
      Exchanges (.blit pixels rect) (Request.blit rect).block
        (.send (pixels.extract 0 rect.byteLength))
  | backlight {level : UInt16} (known : level ≤ 7) :
      Exchanges (.backlight level) (Request.brightness level).block .none

/-- Operations, what arrives for them in order, the calls that they make, and how they end. -/
inductive Served : List Op → List (Except Usb.Error Bytes) → List Usb.Transfer →
    List Exchange.Outcome → Prop
  | nil : Served [] [] [] []
  | rejected {op : Op} {ops : List Op} {fault : Fault} {arrivals : List (Except Usb.Error Bytes)}
      {calls : List Usb.Transfer} {outcomes : List Exchange.Outcome} (refused : op.Rejected fault)
      (later : Served ops arrivals calls outcomes) :
      Served (op :: ops) arrivals calls (⟨.error fault, #[]⟩ :: outcomes)
  | answered {op : Op} {ops : List Op} {command : CommandBlock} {data : DataPhase}
      {own arrivals : List (Except Usb.Error Bytes)} {made calls : List Usb.Transfer}
      {outcome : Exchange.Outcome} {outcomes : List Exchange.Outcome}
      (exchanges : op.Exchanges command data)
      (answered : Exchange.Answered command data own made outcome)
      (later : Served ops arrivals calls outcomes) :
      Served (op :: ops) (own ++ arrivals) (made ++ calls) (outcome :: outcomes)

theorem Op.Rejected.perform_eq {π : Type} [Usb.Pipe π] {op : Op} {fault : Fault}
    (h : op.Rejected fault) (frame : Frame π) :
    perform op frame = (⟨.error fault, #[]⟩, frame) := by
  cases h with
  | blit few => simp only [perform, blit_of_few few]
  | @backlight level above =>
    have habove : Request.maxBrightness < level := above
    simp only [perform, setBacklight, if_pos habove]

section Queue

open Usb.QueuedPipe (queue)

variable {π : Type} [Usb.QueuedPipe π] {frame : Frame (Usb.Recorded π)}
  {rest : List (Except Usb.Error Bytes)}

theorem Op.Exchanges.perform_eq {op : Op} {command : CommandBlock} {data : DataPhase}
    (h : op.Exchanges command data) {own : List (Except Usb.Error Bytes)}
    {made : List Usb.Transfer} {outcome : Exchange.Outcome}
    (answered : Exchange.Answered command data own made outcome)
    (hqueue : queue frame.pipe = own ++ rest) : ∃ pipe : Usb.Recorded π,
      perform op frame = (outcome, { frame with pipe }) ∧ queue pipe = rest ∧
        pipe.calls = frame.pipe.calls ++ made := by
  obtain ⟨pipe, hrun, hrest, hcalls⟩ := answered.run_eq hqueue
  refine ⟨pipe, ?_, hrest, hcalls⟩
  cases h with
  | exchange => simp only [perform, Frame.exchange, hrun]
  | @blit pixels rect enough =>
    simp only [perform, Frame.blit, if_neg (Nat.not_lt.2 enough), Frame.exchange, hrun]
    cases answered with
    | intro delivered => rw [delivered.eq_empty (.inr ⟨_, rfl⟩)]
  | @backlight level known =>
    have hknown : ¬ Request.maxBrightness < level := UInt16.not_lt.2 known
    simp only [perform, setBacklight, if_neg hknown, Frame.exchange, hrun]
    cases answered with
    | intro delivered => rw [delivered.eq_empty (.inl rfl)]

theorem Served.run_eq {ops : List Op} {arrivals : List (Except Usb.Error Bytes)}
    {calls : List Usb.Transfer} {outcomes : List Exchange.Outcome}
    (h : Served ops arrivals calls outcomes) (hqueue : queue frame.pipe = arrivals ++ rest) :
    ∃ pipe : Usb.Recorded π, run ops frame = (outcomes, { frame with pipe }) ∧
      queue pipe = rest ∧ pipe.calls = frame.pipe.calls ++ calls := by
  induction h generalizing frame with
  | nil => exact ⟨frame.pipe, rfl, hqueue, (List.append_nil _).symm⟩
  | rejected refused later ih =>
    obtain ⟨pipe, hrun, hkept⟩ := ih hqueue
    refine ⟨pipe, ?_, hkept⟩
    simp only [run, refused.perform_eq, hrun]
  | answered exchanges answered later ih =>
    rw [List.append_assoc] at hqueue
    obtain ⟨next, hperform, hnext, hmade⟩ := exchanges.perform_eq answered hqueue
    obtain ⟨pipe, hrun, hrest, hcalls⟩ := @ih { frame with pipe := next } hnext
    refine ⟨pipe, ?_, hrest, ?_⟩
    · simp only [run, hperform, hrun]
    · rw [hcalls, hmade, List.append_assoc]

/-- A list of operations that are answered in order takes exactly its answers: each operation that
is not rejected ends with its own code and its own data, a rejected one makes no call, and the queue
is empty afterwards. -/
theorem run_in_step {ops : List Op} {calls : List Usb.Transfer} {outcomes : List Exchange.Outcome}
    (h : Served ops (queue frame.pipe) calls outcomes) :
    ∃ pipe : Usb.Recorded π, run ops frame = (outcomes, { frame with pipe }) ∧ queue pipe = [] ∧
      pipe.calls = frame.pipe.calls ++ calls :=
  h.run_eq (List.append_nil _).symm

theorem run_in_step_three_status_reads : ∃ pipe : Usb.Recorded { s : Usb.Script // s.Whole },
    run [.backlight 8, .exchange Request.parameters.block (.receive #[0xEE, 0xEE]),
        .blit #[] ⟨0, 0, 1, 1⟩, .backlight 7]
      ⟨⟨⟨⟨[.ok #[4, 1, 9], .error .timeout, .ok #[0x55],
        .ok #[0x55, 0x53, 0x42, 0x53, 0, 0, 0, 0, 0, 0, 0, 0, 5],
        .ok #[0x55, 0x53, 0x42, 0x53, 0, 0, 0, 0, 0, 0, 0, 0, 6, 0xFF]], []⟩, nofun⟩, []⟩, 2, 1⟩ =
      ([⟨.error (.backlight 8), #[]⟩, ⟨.ok 5, #[4, 1]⟩, ⟨.error (.pixelData 2 0), #[]⟩,
        ⟨.ok 6, #[]⟩], ⟨pipe, 2, 1⟩) ∧ queue pipe = [] ∧
    pipe.calls = Exchange.calls Request.parameters.block (.receive #[0xEE, 0xEE]) 2 ++
      Exchange.calls (Request.brightness 7).block .none 0 := by
  have hdelivered : Exchange.Delivered (.receive #[0xEE, 0xEE]) [.ok #[4, 1, 9]] _ :=
    .receive (by decide)
  have huseless : ∀ answer ∈ [.error .timeout, .ok #[0x55]], Exchange.Useless answer := by
    simp [Exchange.Useless]
  have hfirst : Exchange.Answered Request.parameters.block (.receive #[0xEE, 0xEE]) _ _ _ :=
    .intro hdelivered (by decide) huseless
      (⟨by decide, by decide, rfl⟩ :
        Exchange.FullReply #[0x55, 0x53, 0x42, 0x53, 0, 0, 0, 0, 0, 0, 0, 0, 5] 5)
  have hnone : ∀ answer ∈ [], Exchange.Useless answer := fun _ hmem => absurd hmem List.not_mem_nil
  have hsecond : Exchange.Answered (Request.brightness 7).block .none _ _ _ :=
    .intro .none (by decide) hnone
      (⟨by decide, by decide, rfl⟩ :
        Exchange.FullReply #[0x55, 0x53, 0x42, 0x53, 0, 0, 0, 0, 0, 0, 0, 0, 6, 0xFF] 6)
  exact run_in_step (.rejected (.backlight (by decide)) (.answered (.exchange _ _) hfirst
    (.rejected (.blit (by decide)) (.answered (.backlight (by decide)) hsecond .nil))))

end Queue

end Frame
end PictureFrame
