import PictureFrame.Proofs.Frame

set_option autoImplicit false

namespace PictureFrame

def Request.dataLength : Request → Nat
  | .parameters => 5
  | .blit rect => rect.byteLength
  | .brightness _ => 0

def Request.envelope (request : Request) : Bytes :=
  (Envelope.encode request.block (.ofNat request.dataLength)).toArray

inductive Task
  | query
  | brightness (level : UInt16)
  | blit (rect : Rect) (payload : Bytes) (fits : payload.size = rect.byteLength)

namespace Task

def request : Task → Request
  | .query => .parameters
  | .brightness level => .brightness level
  | .blit rect _ _ => .blit rect

def data : Task → DataPhase
  | .query => .receive (Array.replicate 5 0)
  | .brightness _ => .none
  | .blit _ payload _ => .send payload

theorem envelope_eq (task : Task) :
    (Exchange.envelope task.request.block task.data).toArray = task.request.envelope := by
  have hlength : task.data.length = task.request.dataLength := by
    cases task with
    | query => rfl
    | brightness level => rfl
    | blit rect payload fits => exact fits
  rw [Exchange.envelope, Request.envelope, hlength]

def Makes (task : Task) (turns : List Usb.Turn) (outcome : Exchange.Outcome) : Prop :=
  Exchange.Conforms task.request.block task.data turns outcome

end Task

def Usb.Transfer.envelope? : Usb.Transfer → Option Bytes
  | .write _ _ bytes => if bytes.size = 31 then some bytes else none
  | .read _ _ _ => none

def envelopes (transfers : List Usb.Transfer) : List Bytes := transfers.filterMap (·.envelope?)

theorem envelopes_append (first second : List Usb.Transfer) :
    envelopes (first ++ second) = envelopes first ++ envelopes second :=
  List.filterMap_append

namespace Exchange

theorem Concluded.envelopes_eq {tries : Nat} {turns : List Usb.Turn} {result : Except Fault UInt8}
    (h : Concluded tries turns result) : envelopes (turns.map Usb.Turn.call) = [] := by
  induction h with
  | full reply => rfl
  | again missed later ih => exact ih
  | last missed => rfl

theorem Transferred.envelopes_eq {task : Task} {turns : List Usb.Turn} {ended : Except Fault Unit}
    {buffer : Bytes} (h : Transferred task.data turns ended buffer) :
    envelopes (turns.map Usb.Turn.call) = [] := by
  cases task with
  | query =>
    cases h
    rfl
  | brightness level =>
    cases h
    rfl
  | blit rect payload fits =>
    have hodd : payload.size ≠ 31 := by
      rw [fits, Rect.byteLength]
      omega
    cases h
    simp [envelopes, Usb.Turn.call, Usb.Transfer.envelope?, hodd]

end Exchange

theorem Task.Makes.envelopes_eq {task : Task} {turns : List Usb.Turn} {outcome : Exchange.Outcome}
    (h : task.Makes turns outcome) :
    envelopes (turns.map Usb.Turn.call) = [task.request.envelope] := by
  have hfirst : ∀ (answer : Except Usb.Error Nat) (rest : List Usb.Turn),
      envelopes (rest.map Usb.Turn.call) = [] → envelopes ((Usb.Turn.wrote 0x01 1000
        (Exchange.envelope task.request.block task.data).toArray answer :: rest).map Usb.Turn.call)
          = [task.request.envelope] := by
    intro answer rest hrest
    rw [List.map_cons, ← List.singleton_append, envelopes_append, hrest, ← task.envelope_eq]
    simp [envelopes, Usb.Turn.call, Usb.Transfer.envelope?]
  cases h with
  | refused missed => exact hfirst _ [] rfl
  | broken sent missed => exact hfirst _ _ missed.envelopes_eq
  | finished sent transferred concluded =>
    refine hfirst _ _ ?_
    rw [List.map_append, envelopes_append, transferred.envelopes_eq, concluded.envelopes_eq]
    rfl

/-- The tasks are carried out in order until the first that fails. -/
inductive Follows : List Task → List Usb.Turn → Except Fault Unit → Prop
  | done : Follows [] [] (.ok ())
  | failed {task : Task} {later : List Task} {turns : List Usb.Turn} {fault : Fault}
      {buffer : Bytes} (made : task.Makes turns ⟨.error fault, buffer⟩) :
      Follows (task :: later) turns (.error fault)
  | next {task : Task} {later : List Task} {turns rest : List Usb.Turn} {code : UInt8}
      {buffer : Bytes} {ended : Except Fault Unit} (made : task.Makes turns ⟨.ok code, buffer⟩)
      (follows : Follows later rest ended) : Follows (task :: later) (turns ++ rest) ended

namespace Follows

variable {tasks later : List Task} {turns rest : List Usb.Turn} {ended : Except Fault Unit}

theorem append (h : Follows tasks turns (.ok ())) (hlater : Follows later rest ended) :
    Follows (tasks ++ later) (turns ++ rest) ended := by
  generalize hok : (Except.ok () : Except Fault Unit) = first at h
  induction h with
  | done => exact hlater
  | failed made => cases hok
  | next made follows ih =>
    rw [List.append_assoc]
    exact .next made (ih hok)

theorem single {task : Task} {outcome : Exchange.Outcome} (h : task.Makes turns outcome) :
    Follows [task] turns (outcome.result.map fun _ => ()) := by
  obtain ⟨fault | code, buffer⟩ := outcome
  · exact .failed h
  · have hone := Follows.next h .done
    rwa [List.append_nil] at hone

theorem turns_eq_nil (h : Follows [] turns ended) : turns = [] := by
  cases h
  rfl

theorem makes_of_single {task : Task} (h : Follows [task] turns (.ok ())) :
    ∃ code buffer, task.Makes turns ⟨.ok code, buffer⟩ := by
  cases h with
  | next made follows =>
    rw [follows.turns_eq_nil, List.append_nil]
    exact ⟨_, _, made⟩

theorem envelopes_prefix (h : Follows tasks turns ended) :
    envelopes (turns.map Usb.Turn.call) <+: (tasks.map Task.request).map Request.envelope := by
  induction h with
  | done => exact List.nil_prefix
  | failed made =>
    rw [made.envelopes_eq]
    exact ⟨_, rfl⟩
  | next made follows ih =>
    rw [List.map_append, envelopes_append, made.envelopes_eq]
    exact (List.prefix_append_right_inj _).2 ih

theorem envelopes_eq (h : Follows tasks turns (.ok ())) :
    envelopes (turns.map Usb.Turn.call) = (tasks.map Task.request).map Request.envelope := by
  generalize hok : (Except.ok () : Except Fault Unit) = ended at h
  induction h with
  | done => rfl
  | failed made => cases hok
  | next made follows ih =>
    rw [List.map_append, envelopes_append, made.envelopes_eq, ih hok]
    rfl

end Follows

theorem exists_tasks (requests : List Request) :
    ∃ tasks : List Task, tasks.map Task.request = requests := by
  induction requests with
  | nil => exact ⟨[], rfl⟩
  | cons request requests ih =>
    obtain ⟨tasks, htasks⟩ := ih
    have htask : ∃ task : Task, task.request = request := by
      cases request with
      | parameters => exact ⟨.query, rfl⟩
      | brightness level => exact ⟨.brightness level, rfl⟩
      | blit rect =>
        exact ⟨.blit rect (Array.replicate rect.byteLength 0) Array.size_replicate, rfl⟩
    obtain ⟨task, rfl⟩ := htask
    exact ⟨task :: tasks, by rw [List.map_cons, htasks]⟩

namespace Frame

variable {π : Type} [Usb.Pipe π]

theorem setBacklight_makes {level : UInt16} (h : level ≤ Request.maxBrightness) (frame : Frame π) :
    ∃ turns outcome, setBacklight level frame =
        (outcome.result, { frame with pipe := (setBacklight level frame).2.pipe }) ∧
      Usb.Dialogue frame.pipe turns (setBacklight level frame).2.pipe ∧
      (Task.brightness level).Makes turns outcome := by
  obtain ⟨turns, hturns, hmade⟩ :=
    Exchange.exists_conforms (Request.brightness level).block .none frame.pipe
  rw [setBacklight_eq h]
  exact ⟨turns, _, rfl, hturns, hmade⟩

theorem blit_makes {payload : Bytes} {rect : Rect} (fits : payload.size = rect.byteLength)
    (frame : Frame π) : ∃ turns outcome, (blit payload rect frame).1 = outcome.result ∧
      Usb.Dialogue frame.pipe turns (blit payload rect frame).2.pipe ∧
      (Task.blit rect payload fits).Makes turns outcome := by
  obtain ⟨turns, hturns, hmade⟩ :=
    Exchange.exists_conforms (Request.blit rect).block (.send payload) frame.pipe
  rw [blit_eq fits]
  exact ⟨turns, _, rfl, hturns, hmade⟩

end Frame

def Frame.Reported (turns : List Usb.Turn) (width height : UInt16) : Prop :=
  ∃ b0 b1 b2 b3 b4 : UInt8, Frame.Queried turns (.ok #v[b0, b1, b2, b3, b4]) ∧
    width.toNat = b0.toNat + 256 * b1.toNat ∧ height.toNat = b2.toNat + 256 * b3.toNat

/-- So many blits at most are tried, each whatever became of those before. -/
inductive Tried : Nat → List Usb.Turn → Prop
  | done {count : Nat} : Tried count []
  | blit {count : Nat} {rect : Rect} {payload : Bytes} {fits : payload.size = rect.byteLength}
      {turns rest : List Usb.Turn} {outcome : Exchange.Outcome}
      (made : (Task.blit rect payload fits).Makes turns outcome) (tried : Tried count rest) :
      Tried (count + 1) (turns ++ rest)

/-- All that is said to a frame: nothing, or the query, and after a size without a zero what is
planned for a panel of that size. Only after the last task of the plan a number of further blits can
follow. -/
inductive Talk (plan : UInt16 → UInt16 → List Request) (further : UInt16 → UInt16 → Nat) :
    List Usb.Turn → Prop
  | silent : Talk plan further []
  | unanswered {turns : List Usb.Turn} {fault : Fault}
      (queried : Frame.Queried turns (.error fault)) : Talk plan further turns
  | flat {turns : List Usb.Turn} {width height : UInt16}
      (reported : Frame.Reported turns width height) (zero : width = 0 ∨ height = 0) :
      Talk plan further turns
  | sized {query turns : List Usb.Turn} {width height : UInt16} {tasks : List Task}
      {ended : Except Fault Unit} (reported : Frame.Reported query width height)
      (positive : 1 ≤ width ∧ 1 ≤ height) (planned : tasks.map Task.request = plan width height)
      (follows : Follows tasks turns ended) : Talk plan further (query ++ turns)
  | pressed {query turns last more : List Usb.Turn} {width height : UInt16} {tasks : List Task}
      {task : Task} {outcome : Exchange.Outcome} (reported : Frame.Reported query width height)
      (positive : 1 ≤ width ∧ 1 ≤ height)
      (planned : (tasks ++ [task]).map Task.request = plan width height)
      (follows : Follows tasks turns (.ok ())) (made : task.Makes last outcome)
      (tried : Tried (further width height) more) :
      Talk plan further (query ++ (turns ++ last) ++ more)

theorem Frame.Queried.envelopes_eq {turns : List Usb.Turn}
    {answer : Except Fault (Vector UInt8 5)} (h : Frame.Queried turns answer) :
    envelopes (turns.map Usb.Turn.call) = [Request.parameters.envelope] := by
  have hmade : ∃ outcome, Task.query.Makes turns outcome := by
    cases h with
    | failed conforms => exact ⟨_, conforms⟩
    | answered reply code concluded =>
      exact ⟨_, Exchange.conforms_receive_ok.2 ⟨reply, _, rfl, rfl, concluded⟩⟩
  obtain ⟨outcome, hmade⟩ := hmade
  exact hmade.envelopes_eq

theorem Frame.Reported.envelopes_eq {turns : List Usb.Turn} {width height : UInt16}
    (h : Frame.Reported turns width height) :
    envelopes (turns.map Usb.Turn.call) = [Request.parameters.envelope] := by
  obtain ⟨_, _, _, _, _, queried, -, -⟩ := h
  exact queried.envelopes_eq

theorem Follows.envelopes_prefix_reported {tasks : List Task} {query turns : List Usb.Turn}
    {ended : Except Fault Unit} {width height : UInt16} (h : Follows tasks turns ended)
    (reported : Frame.Reported query width height) :
    envelopes ((query ++ turns).map Usb.Turn.call) <+:
      (Request.parameters :: tasks.map Task.request).map Request.envelope := by
  rw [List.map_append, envelopes_append, reported.envelopes_eq, List.map_cons]
  exact (List.prefix_append_right_inj _).2 h.envelopes_prefix

def Complete (plan : UInt16 → UInt16 → List Request) (turns : List Usb.Turn) : Prop :=
  ∃ query rest more width height, turns = query ++ rest ++ more ∧
    Frame.Reported query width height ∧ envelopes (rest.map Usb.Turn.call) =
      (plan width height).map Request.envelope

namespace Talk

variable {plan : UInt16 → UInt16 → List Request} {further : UInt16 → UInt16 → Nat}
variable {turns : List Usb.Turn}

/-- Up to the further blits, the envelopes are the first ones of the query and the plan. -/
theorem envelopes_prefix (h : Talk plan further turns) :
    ∃ width height shown more, turns = shown ++ more ∧
      envelopes (shown.map Usb.Turn.call) <+:
        (Request.parameters :: plan width height).map Request.envelope ∧
      Tried (further width height) more := by
  cases h with
  | silent => exact ⟨0, 0, [], [], rfl, List.nil_prefix, .done⟩
  | unanswered queried =>
    refine ⟨0, 0, turns, [], (List.append_nil turns).symm, ?_, .done⟩
    rw [queried.envelopes_eq]
    exact ⟨_, rfl⟩
  | @flat _ width height reported zero =>
    refine ⟨width, height, turns, [], (List.append_nil turns).symm, ?_, .done⟩
    rw [reported.envelopes_eq]
    exact ⟨_, rfl⟩
  | @sized query turns width height tasks ended reported positive planned follows =>
    refine ⟨width, height, query ++ turns, [], (List.append_nil _).symm, ?_, .done⟩
    rw [← planned]
    exact follows.envelopes_prefix_reported reported
  | @pressed query turns last more width height tasks task outcome reported positive planned
      follows made tried =>
    refine ⟨width, height, query ++ (turns ++ last), more, rfl, ?_, tried⟩
    rw [← planned]
    exact (follows.append (.single made)).envelopes_prefix_reported reported

theorem envelopes_prefix_of_single (h : Talk plan further turns)
    (hsingle : ∀ width height, further width height = 0) :
    ∃ width height, envelopes (turns.map Usb.Turn.call) <+:
      (Request.parameters :: plan width height).map Request.envelope := by
  obtain ⟨width, height, shown, more, rfl, hprefix, htried⟩ := h.envelopes_prefix
  rw [hsingle] at htried
  cases htried
  rw [List.append_nil]
  exact ⟨width, height, hprefix⟩

theorem envelopes_prefix_of_unplanned (h : Talk plan further turns)
    (hplan : ∀ width height, plan width height = []) :
    envelopes (turns.map Usb.Turn.call) <+: [Request.parameters.envelope] := by
  cases h with
  | silent => exact List.nil_prefix
  | unanswered queried => exact queried.envelopes_eq ▸ List.prefix_rfl
  | flat reported zero => exact reported.envelopes_eq ▸ List.prefix_rfl
  | sized reported positive planned follows =>
    rw [hplan] at planned
    have hprefix := follows.envelopes_prefix_reported reported
    rwa [planned] at hprefix
  | pressed reported positive planned follows made tried =>
    rw [hplan, List.map_append] at planned
    exact absurd (List.append_eq_nil_iff.1 planned).2 (List.cons_ne_nil _ _)

end Talk

end PictureFrame
