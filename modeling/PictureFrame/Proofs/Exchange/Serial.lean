import Mathlib.Data.List.ReduceOption
import PictureFrame.Proofs.Exchange.Protocol

set_option autoImplicit false

/-!
# Exchanges one after another

The frame replies to each command once and in order, but a reply may come late. An exchange takes
the first reply that is there, and after five timeouts it is given up while its reply is still on
the way. The next exchange then takes that reply for its own: all envelopes carry the same tag, and
the tag of a reply is not looked at.
-/
namespace PictureFrame.Exchange

/-- A command that brings no data in. -/
structure Job where
  command : CommandBlock
  payload : Option Bytes

def Job.data (job : Job) : DataPhase :=
  match job.payload with
  | none => .none
  | some payload => .send payload

def serve {π : Type} [Usb.Pipe π] : List Job → StateM π (List (Except Fault UInt8))
  | [] => fun pipe => ([], pipe)
  | job :: rest => fun pipe =>
    let (outcome, pipe) := run job.command job.data pipe
    let (results, pipe) := serve rest pipe
    (outcome.result :: results, pipe)

structure Reply where
  status : Status
  valid : status.isValid

/-- A pipe with whole writes only, on which a read finds the next reply or times out. -/
def script (writes : Nat) (arrivals : List (Option Reply)) : Usb.Script where
  reads := arrivals.map fun
    | none => .error .timeout
    | some reply => .ok reply.status.bytes.toArray
  writes := List.replicate writes (.ok .all)

/-- The first reply within a number of reads, and what comes in afterwards. -/
def await : Nat → List (Option Reply) → Option Reply × List (Option Reply)
  | 0, arrivals => (none, arrivals)
  | _ + 1, [] => (none, [])
  | reads + 1, none :: rest => await reads rest
  | _ + 1, some reply :: rest => (some reply, rest)

def Reply.result : Option Reply → Except Fault UInt8
  | none => .error (.transfer .status .timeout)
  | some reply => .ok reply.status.code

theorem write_script (endpoint : UInt8) (timeout : Nat) (bytes : Bytes) (writes : Nat)
    (arrivals : List (Option Reply)) :
    Usb.Pipe.write endpoint timeout bytes (script writes arrivals) =
      (.ok bytes.size, script (writes - 1) arrivals) := by
  cases writes <;> rfl

theorem read_script_some (endpoint : UInt8) (timeout writes : Nat) (reply : Reply)
    (rest : List (Option Reply)) :
    Usb.Pipe.read endpoint timeout 13 (script writes (some reply :: rest)) =
      (.ok (.whole reply.status.bytes), script writes rest) := by
  have hcut : Delivery.cut 13 reply.status.bytes.toArray = .whole reply.status.bytes := by
    apply Subtype.ext
    simp [Delivery.cut, Delivery.whole]
  change (Except.ok (Delivery.cut 13 reply.status.bytes.toArray), script writes rest) = _
  rw [hcut]

theorem Reply.verdict_eq (reply : Reply) : verdict reply.status = .ok reply.status.code := by
  rw [Exchange.verdict_eq]
  exact if_pos reply.valid

theorem conclude_script (tries attempt writes : Nat) (buffer : Vector UInt8 13)
    (arrivals : List (Option Reply)) :
    conclude (retryFrom (fun _ => readStatus) attempt tries (script writes arrivals, buffer)) =
      (Reply.result (await (tries + 1) arrivals).1,
        script writes (await (tries + 1) arrivals).2) := by
  induction tries generalizing attempt buffer arrivals with
  | zero =>
    rw [retryFrom, readStatus_eq]
    rcases arrivals with _ | ⟨_ | reply, rest⟩
    · rfl
    · rfl
    · rw [read_script_some, moved_read_eq_ok.2 ⟨_, rfl⟩, filled, overlay_whole, conclude,
        reply.verdict_eq]
      rfl
  | succ tries ih =>
    simp only [retryFrom, readStatus_eq]
    rcases arrivals with _ | ⟨_ | reply, rest⟩
    · exact ih (attempt + 1) buffer []
    · exact ih (attempt + 1) buffer rest
    · rw [read_script_some, moved_read_eq_ok.2 ⟨_, rfl⟩, filled, overlay_whole, conclude,
        reply.verdict_eq]
      rfl

theorem status_script (writes : Nat) (arrivals : List (Option Reply)) :
    status (script writes arrivals) =
      (Reply.result (await 5 arrivals).1, script writes (await 5 arrivals).2) := by
  rw [status_eq]
  exact conclude_script 4 1 writes _ arrivals

theorem run_script (job : Job) (writes : Nat) (arrivals : List (Option Reply)) :
    ∃ left, run job.command job.data (script writes arrivals) =
      (⟨Reply.result (await 5 arrivals).1, #[]⟩, script left (await 5 arrivals).2) := by
  rw [run_eq, write_script]
  have hsent : moved .command 31 (.ok (envelope job.command job.data).toArray.size) = .ok () := by
    rw [Vector.size_toArray]
    rfl
  simp only [hsent]
  rcases job with ⟨command, _ | payload⟩
  · refine ⟨writes - 1, ?_⟩
    simp only [Job.data, transferData, status_script]
  · refine ⟨writes - 1 - 1, ?_⟩
    have hpayload : moved .data payload.size (.ok payload.size) = .ok () := if_pos rfl
    simp only [Job.data, transferData, send_eq, write_script, hpayload, status_script]

theorem serve_script_cons (job : Job) (jobs : List Job) (writes : Nat)
    (arrivals : List (Option Reply)) :
    ∃ left, (serve (job :: jobs) (script writes arrivals)).1 =
      Reply.result (await 5 arrivals).1 :: (serve jobs (script left (await 5 arrivals).2)).1 := by
  obtain ⟨left, hrun⟩ := run_script job writes arrivals
  refine ⟨left, ?_⟩
  simp only [serve, hrun]
  rfl

theorem await_some {reads : Nat} {arrivals : List (Option Reply)} {reply : Reply}
    (h : (await reads arrivals).1 = some reply) :
    arrivals.reduceOption = reply :: (await reads arrivals).2.reduceOption := by
  induction reads generalizing arrivals with
  | zero => cases h
  | succ reads ih =>
    rcases arrivals with _ | ⟨_ | first, rest⟩
    · cases h
    · exact ih h
    · cases h
      rfl

theorem await_none {reads : Nat} {arrivals : List (Option Reply)}
    (h : (await reads arrivals).1 = none) :
    (await reads arrivals).2.reduceOption = arrivals.reduceOption := by
  induction reads generalizing arrivals with
  | zero => rfl
  | succ reads ih =>
    rcases arrivals with _ | ⟨_ | first, rest⟩
    · rfl
    · exact ih h
    · cases h

def successes (results : List (Except Fault UInt8)) : Nat := results.countP Except.isOk

@[simp] theorem successes_ok (code : UInt8) (results : List (Except Fault UInt8)) :
    successes (.ok code :: results) = successes results + 1 :=
  List.countP_cons_of_pos rfl

@[simp] theorem successes_error (fault : Fault) (results : List (Except Fault UInt8)) :
    successes (.error fault :: results) = successes results :=
  List.countP_cons_of_neg Bool.false_ne_true

/-- A success takes the first reply that no earlier success took, whoever it is for. -/
theorem reply_after_successes (jobs : List Job) (writes : Nat) (arrivals : List (Option Reply))
    {k : Nat} {code : UInt8} (h : (serve jobs (script writes arrivals)).1[k]? = some (.ok code)) :
    ∃ reply, arrivals.reduceOption[successes ((serve jobs (script writes arrivals)).1.take k)]? =
      some reply ∧ reply.status.code = code := by
  induction jobs generalizing writes arrivals k with
  | nil => cases h
  | cons job jobs ih =>
    obtain ⟨left, hserve⟩ := serve_script_cons job jobs writes arrivals
    rw [hserve] at h ⊢
    -- A failure takes no reply and a success takes the first, so both counts move together.
    cases hawait : (await 5 arrivals).1 with
    | none =>
      rw [hawait] at h
      cases k with
      | zero => cases h
      | succ k =>
        obtain ⟨reply, hreply, hcode⟩ := ih left (await 5 arrivals).2 h
        refine ⟨reply, ?_, hcode⟩
        rw [← await_none hawait, List.take_succ_cons, Reply.result, successes_error]
        exact hreply
    | some first =>
      rw [hawait] at h
      rw [await_some hawait]
      cases k with
      | zero =>
        cases h
        exact ⟨first, rfl, rfl⟩
      | succ k =>
        obtain ⟨reply, hreply, hcode⟩ := ih left (await 5 arrivals).2 h
        refine ⟨reply, ?_, hcode⟩
        rw [List.take_succ_cons, Reply.result, successes_ok, List.getElem?_cons_succ]
        exact hreply

theorem successes_take_eq_iff {results : List (Except Fault UInt8)} {k : Nat}
    (hk : k ≤ results.length) : successes (results.take k) = k ↔
      ∀ result ∈ results.take k, ∃ code, result = .ok code := by
  have hlength : (results.take k).length = k := List.length_take_of_le hk
  have hok : ∀ result : Except Fault UInt8, result.isOk ↔ ∃ code, result = .ok code := by
    intro result
    cases result <;> simp [Except.isOk, Except.toBool]
  constructor
  · intro h result hresult
    exact (hok result).1 (List.countP_eq_length.1 (h.trans hlength.symm) result hresult)
  · intro h
    have hall : successes (results.take k) = (results.take k).length :=
      List.countP_eq_length.2 fun result hresult => (hok result).2 (h result hresult)
    rw [hall, hlength]

/-- A successful exchange has a reply that is due already, and has its own exactly if no exchange
before it failed. -/
theorem reply_of_success (jobs : List Job) (writes : Nat) (arrivals : List (Option Reply)) {k : Nat}
    {code : UInt8} (h : (serve jobs (script writes arrivals)).1[k]? = some (.ok code)) :
    ∃ taken reply, taken = successes ((serve jobs (script writes arrivals)).1.take k) ∧
      arrivals.reduceOption[taken]? = some reply ∧ reply.status.code = code ∧ taken ≤ k ∧
        (taken = k ↔ ∀ result ∈ (serve jobs (script writes arrivals)).1.take k,
          ∃ earlier, result = .ok earlier) := by
  obtain ⟨reply, hreply, hcode⟩ := reply_after_successes jobs writes arrivals h
  have hk : k < (serve jobs (script writes arrivals)).1.length := (List.getElem?_eq_some_iff.1 h).1
  refine ⟨_, reply, rfl, hreply, hcode, ?_, successes_take_eq_iff (Nat.le_of_lt hk)⟩
  exact Nat.le_trans List.countP_le_length (List.length_take_le k _)

def Job.parameters : Job := ⟨Request.parameters.block, none⟩

def Reply.ofCode (code : UInt8) : Reply :=
  ⟨⟨#v[0x55, 0x53, 0x42, 0x53, 0, 0, 0, 0, 0, 0, 0, 0, code]⟩, rfl⟩

theorem reply_of_success_late :
    (serve [.parameters, .parameters] (script 0
      (List.replicate 5 none ++ [some (.ofCode 1), some (.ofCode 2)]))).1[1]? = some (.ok 1) ∧
    ∃ taken reply, taken = 0 ∧ [Reply.ofCode 1, Reply.ofCode 2][taken]? = some reply ∧
      reply.status.code = 1 := by
  have h : (serve [.parameters, .parameters] (script 0
      (List.replicate 5 none ++ [some (.ofCode 1), some (.ofCode 2)]))).1[1]? = some (.ok 1) := rfl
  obtain ⟨taken, reply, htaken, hreply, hcode, -, -⟩ := reply_of_success _ _ _ h
  exact ⟨h, taken, reply, htaken, hreply, hcode⟩

/-- One exchange at a time does not make a return code the command's own. -/
theorem not_reply_of_command : ¬ ∀ (jobs : List Job) (writes : Nat)
    (arrivals : List (Option Reply)) (k : Nat) (code : UInt8),
      (serve jobs (script writes arrivals)).1[k]? = some (.ok code) →
        ∃ reply, arrivals.reduceOption[k]? = some reply ∧ reply.status.code = code := by
  intro h
  obtain ⟨reply, hreply, hcode⟩ := h [.parameters, .parameters] 0
    (List.replicate 5 none ++ [some (.ofCode 1), some (.ofCode 2)]) 1 1 rfl
  cases hreply
  cases hcode

theorem await_suffix (reads : Nat) (arrivals : List (Option Reply)) :
    (await reads arrivals).2 <:+ arrivals := by
  induction reads generalizing arrivals with
  | zero => exact List.suffix_rfl
  | succ reads ih =>
    rcases arrivals with _ | ⟨_ | reply, rest⟩
    · exact List.suffix_rfl
    · exact (ih rest).trans (List.suffix_cons none rest)
    · exact List.suffix_cons (some reply) rest

theorem await_timeouts {reads : Nat} {arrivals : List (Option Reply)}
    (h : (await reads arrivals).1 = none) (hmore : arrivals.reduceOption ≠ []) :
    List.replicate reads none <+: arrivals := by
  induction reads generalizing arrivals with
  | zero => exact List.nil_prefix
  | succ reads ih =>
    rcases arrivals with _ | ⟨_ | reply, rest⟩
    · exact absurd rfl hmore
    · rw [List.replicate_succ, List.cons_prefix_cons]
      exact ⟨rfl, ih h hmore⟩
    · cases h

/-- While no five reads in a row time out, every exchange has its own reply. -/
theorem serve_prompt (jobs : List Job) (writes : Nat) {arrivals : List (Option Reply)}
    (hprompt : ¬ List.replicate 5 none <:+: arrivals) {k : Nat} (hk : k < jobs.length)
    {reply : Reply} (hreply : arrivals.reduceOption[k]? = some reply) :
    (serve jobs (script writes arrivals)).1[k]? = some (.ok reply.status.code) := by
  induction jobs generalizing writes arrivals k with
  | nil => cases hk
  | cons job jobs ih =>
    obtain ⟨left, hserve⟩ := serve_script_cons job jobs writes arrivals
    rw [hserve]
    cases hawait : (await 5 arrivals).1 with
    | none =>
      have hmore : arrivals.reduceOption ≠ [] := by
        intro hnil
        rw [hnil] at hreply
        cases hreply
      exact absurd (await_timeouts hawait hmore).isInfix hprompt
    | some first =>
      rw [await_some hawait] at hreply
      cases k with
      | zero =>
        cases hreply
        rfl
      | succ k =>
        have hrest : ¬ List.replicate 5 none <:+: (await 5 arrivals).2 :=
          fun hin => hprompt (hin.trans (await_suffix 5 arrivals).isInfix)
        exact ih left hrest (Nat.lt_of_succ_lt_succ hk) hreply

end PictureFrame.Exchange
