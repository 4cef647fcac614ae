import Mathlib.Data.Nat.Find
import Mathlib.Order.Bounds.Basic
import PictureFrame.Exchange
import PictureFrame.Proofs.Basic

set_option autoImplicit false

namespace PictureFrame.Retry

variable {σ ε α : Type} {action : Nat → StateM σ (Except ε α)} {s : σ} {attempts : Nat}

def stateAfter (action : Nat → StateM σ (Except ε α)) (s : σ) : Nat → σ
  | 0 => s
  | n + 1 => (action (n + 1) (stateAfter action s n)).2

def outcome (action : Nat → StateM σ (Except ε α)) (s : σ) (n : Nat) : Except ε α :=
  (action n (stateAfter action s (n - 1))).1

/-- The numbers of the tries that succeed, and of the last one allowed. -/
def stops (action : Nat → StateM σ (Except ε α)) (s : σ) (attempts : Nat) : Set Nat :=
  {n | 1 ≤ n ∧ ((outcome action s n).isOk ∨ n = max attempts 1)}

theorem action_stateAfter (action : Nat → StateM σ (Except ε α)) (s : σ) (n : Nat) :
    action (n + 1) (stateAfter action s n) =
      (outcome action s (n + 1), stateAfter action s (n + 1)) := rfl

theorem last_mem_stops : max attempts 1 ∈ stops action s attempts :=
  ⟨Nat.le_max_right attempts 1, .inr rfl⟩

theorem exists_isLeast_stops (action : Nat → StateM σ (Except ε α)) (s : σ) (attempts : Nat) :
    ∃ n, IsLeast (stops action s attempts) n := by
  classical
  have hsome : ∃ n, n ∈ stops action s attempts := ⟨_, last_mem_stops⟩
  exact ⟨Nat.find hsome, Nat.find_spec hsome, fun n hn => Nat.find_min' hsome hn⟩

section First

variable {n : Nat} (first : IsLeast (stops action s attempts) n)

include first

theorem first_le : n ≤ max attempts 1 := first.2 last_mem_stops

theorem exists_error_of_lt_first {k : Nat} (h : k + 1 < n) :
    ∃ fault, outcome action s (k + 1) = .error fault := by
  cases hout : outcome action s (k + 1) with
  | error fault => exact ⟨fault, rfl⟩
  | ok value =>
    have hstop : k + 1 ∈ stops action s attempts :=
      ⟨Nat.le_add_left 1 k, .inl (by rw [hout]; rfl)⟩
    exact absurd (first.2 hstop) (Nat.not_le.2 h)

theorem retryFrom_stateAfter {k more : Nat} (hk : k < n) (hmore : k + 1 + more = max attempts 1) :
    retryFrom action (k + 1) more (stateAfter action s k) =
      (outcome action s n, stateAfter action s n) := by
  have hle := first_le first
  -- On the tries left: a failure leaves the same search with one try less, one state further on.
  induction more generalizing k with
  | zero =>
    have hn : n = k + 1 := by omega
    rw [hn]
    exact action_stateAfter action s k
  | succ more ih =>
    simp only [retryFrom, action_stateAfter]
    rcases Nat.lt_or_eq_of_le (Nat.succ_le_of_lt hk) with hlt | heq
    · obtain ⟨fault, hfault⟩ := exists_error_of_lt_first first hlt
      rw [hfault]
      exact ih hlt (by omega)
    · subst heq
      rcases first.1.2 with hok | hlast
      · cases hout : outcome action s (k + 1) with
        | error fault =>
          rw [hout] at hok
          cases hok
        | ok value => rfl
      · omega

theorem retry_of_first :
    retry attempts action s = (outcome action s n, stateAfter action s n) :=
  retryFrom_stateAfter first first.1.1 (by omega)

end First

def noted (action : Nat → StateM σ (Except ε α)) :
    Nat → StateM (σ × List (Nat × σ)) (Except ε α) := fun n (s, calls) =>
  let (result, after) := action n s
  (result, after, calls ++ [(n, s)])

def firstCalls (action : Nat → StateM σ (Except ε α)) (s : σ) (n : Nat) : List (Nat × σ) :=
  (List.range n).map fun k => (k + 1, stateAfter action s k)

theorem stateAfter_noted (action : Nat → StateM σ (Except ε α)) (s : σ) (n : Nat) :
    stateAfter (noted action) (s, []) n = (stateAfter action s n, firstCalls action s n) := by
  induction n with
  | zero => rfl
  | succ n ih =>
    have hcalls : firstCalls action s (n + 1) =
        firstCalls action s n ++ [(n + 1, stateAfter action s n)] := by
      rw [firstCalls, List.range_succ, List.map_append]
      rfl
    rw [stateAfter, ih, hcalls]
    rfl

theorem outcome_noted (action : Nat → StateM σ (Except ε α)) (s : σ) (n : Nat) :
    outcome (noted action) (s, []) n = outcome action s n := by
  rw [outcome, stateAfter_noted]
  rfl

theorem stops_noted (action : Nat → StateM σ (Except ε α)) (s : σ) (attempts : Nat) :
    stops (noted action) (s, []) attempts = stops action s attempts := by
  simp only [stops, outcome_noted]

/-- A loop that is about to make the call of some number, or has ended. -/
inductive Loop (σ ε α : Type)
  | calling (attempt : Nat) (s : σ)
  | ended (result : Except ε α) (s : σ)

namespace Loop

/-- One call. After a failure below `attempts` the loop counts on, which stops the program at the end of
the counter's word. -/
def pass (attempts : Nat) (action : Nat → StateM σ (Except ε α)) :
    Loop σ ε α → Checked (Loop σ ε α)
  | .ended result s => .ok (.ended result s)
  | .calling attempt s =>
    match action attempt s with
    | (.ok value, s) => .ok (.ended (.ok value) s)
    | (.error fault, s) =>
      if attempt < attempts then do return .calling (← Checked.add attempt 1) s
      else .ok (.ended (.error fault) s)

def passes (attempts : Nat) (action : Nat → StateM σ (Except ε α)) :
    Nat → Loop σ ε α → Checked (Loop σ ε α)
  | 0, loop => .ok loop
  | n + 1, loop => do pass attempts action (← passes attempts action n loop)

theorem passes_succ {n : Nat} {loop loop' : Loop σ ε α}
    (h : passes attempts action n loop = .ok loop') :
    passes attempts action (n + 1) loop = pass attempts action loop' := by
  rw [passes, h]
  rfl

theorem pass_of_error {k : Nat} {fault : ε} (hword : attempts < Checked.wordLimit)
    (hk : k + 1 < attempts) (hfault : outcome action s (k + 1) = .error fault) :
    pass attempts action (.calling (k + 1) (stateAfter action s k)) =
      .ok (.calling (k + 2) (stateAfter action s (k + 1))) := by
  have hcount : Checked.add (k + 1) 1 = .ok (k + 2) := if_pos (by omega)
  simp only [pass, action_stateAfter, hfault, if_pos hk, hcount]
  rfl

theorem pass_of_stop {k : Nat}
    (h : (outcome action s (k + 1)).isOk ∨ attempts ≤ k + 1) :
    pass attempts action (.calling (k + 1) (stateAfter action s k)) =
      .ok (.ended (outcome action s (k + 1)) (stateAfter action s (k + 1))) := by
  simp only [pass, action_stateAfter]
  cases hout : outcome action s (k + 1) with
  | ok value => rfl
  | error fault =>
    rw [hout] at h
    have hlast : attempts ≤ k + 1 := h.resolve_left nofun
    exact if_neg (Nat.not_lt.2 hlast)

variable {n : Nat} (first : IsLeast (stops action s attempts) n)

include first

theorem passes_before (hword : attempts < Checked.wordLimit) {k : Nat} (hk : k < n) :
    passes attempts action k (.calling 1 s) = .ok (.calling (k + 1) (stateAfter action s k)) := by
  have hle := first_le first
  induction k with
  | zero => rfl
  | succ k ih =>
    obtain ⟨fault, hfault⟩ := exists_error_of_lt_first first hk
    rw [passes_succ (ih (Nat.lt_of_succ_lt hk))]
    exact pass_of_error hword (by omega) hfault

theorem passes_first (hword : attempts < Checked.wordLimit) :
    passes attempts action n (.calling 1 s) =
      .ok (.ended (outcome action s n) (stateAfter action s n)) := by
  obtain ⟨k, rfl⟩ : ∃ k, n = k + 1 := ⟨n - 1, by have := first.1.1; omega⟩
  rw [passes_succ (passes_before first hword (Nat.lt_succ_self k))]
  exact pass_of_stop (first.1.2.imp_right fun hlast => by omega)

end Loop

/-- Retrying makes `n` calls, where `n` is the least number of a try that succeeds or is the last one
allowed, of which there is at least one. The calls have the numbers from one up to `n`, each gets the
state that the one before it left, and the result is that of the last. The loop that counts in a word
gets there without leaving it: before its end it is about to make the next of these calls. -/
theorem first_success (attempts : UInt64) (action : Nat → StateM σ (Except ε α)) (s : σ) :
    ∃ n, IsLeast {k | 1 ≤ k ∧ ((outcome action s k).isOk ∨ k = max attempts.toNat 1)} n ∧
      retry attempts.toNat action s = (outcome action s n, stateAfter action s n) ∧
      retry attempts.toNat (noted action) (s, []) =
        (outcome action s n, stateAfter action s n, firstCalls action s n) ∧
      (∀ k < n, Loop.passes attempts.toNat action k (.calling 1 s) =
        .ok (.calling (k + 1) (stateAfter action s k))) ∧
      Loop.passes attempts.toNat action n (.calling 1 s) =
        .ok (.ended (outcome action s n) (stateAfter action s n)) := by
  obtain ⟨n, first⟩ := exists_isLeast_stops action s attempts.toNat
  have noting : IsLeast (stops (noted action) (s, []) attempts.toNat) n := by
    rwa [stops_noted]
  have hword : attempts.toNat < Checked.wordLimit := attempts.toNat_lt
  refine ⟨n, first, retry_of_first first, ?_, ?_, Loop.passes_first first hword⟩
  · rw [retry_of_first noting, outcome_noted, stateAfter_noted]
  · intro k hk
    exact Loop.passes_before first hword hk

theorem first_success_second_try :
    let action : Nat → StateM Nat (Except Nat Nat) := fun n count =>
      (if n = 2 then .ok 7 else .error n, count + 1)
    IsLeast {k | 1 ≤ k ∧ ((outcome action 0 k).isOk ∨ k = max (5 : UInt64).toNat 1)} 2 ∧
      retry 5 action 0 = (.ok 7, 2) ∧ retry 5 (noted action) (0, []) = (.ok 7, 2, [(1, 0), (2, 1)]) ∧
      Loop.passes 5 action 1 (.calling 1 0) = .ok (.calling 2 1) := by
  intro action
  obtain ⟨n, hleast, hretry, hnoted, hbefore, -⟩ := first_success 5 action 0
  have hsecond :
      IsLeast {k | 1 ≤ k ∧ ((outcome action 0 k).isOk ∨ k = max (5 : UInt64).toNat 1)} 2 := by
    refine ⟨⟨by decide, .inl rfl⟩, ?_⟩
    rintro k ⟨hpos, hk⟩
    refine Nat.succ_le_of_lt (Nat.lt_of_le_of_ne hpos ?_)
    rintro rfl
    revert hk
    decide
  obtain rfl := hleast.unique hsecond
  exact ⟨hsecond, hretry, hnoted, hbefore 1 (by decide)⟩

example : retry 0 (fun n count => (.error n, count + 1) : Nat → StateM Nat (Except Nat Unit)) 0 =
    (.error 1, 1) := rfl

end PictureFrame.Retry
