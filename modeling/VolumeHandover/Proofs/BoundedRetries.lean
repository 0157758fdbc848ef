import VolumeHandover.Retry

set_option autoImplicit false

/-! # Bounded retries, attempt by attempt

A run of a policy is followed on a timeline that notes every attempt with its time. It makes the
attempts `1, 2, …, k` and no others, one pause after the other, and ends with the last of them,
without a pause behind it; `k` is the number of the first success, or the number of attempts of the
policy if all of these fail (`RetryPolicy.run_on_timeline`). A pause is as long as the interval
unless that is longer than thirty years (`sample_pause_cut`).

Every trial is such a run (`RetryPolicy.trial_on_timeline`).
-/

namespace VolumeHandover

/-! ## One attempt -/

namespace RetryPolicy

variable {σ α : Type} {policy : RetryPolicy} {operation : String}
  {pause : Duration → StateM σ Unit} {attempt : Nat → StateM σ (Except Error α)} {left n : Nat}
  {s s' : σ}

theorem runFrom_of_ok {value : α} (made : attempt n s = (.ok value, s')) :
    policy.runFrom pause operation attempt left n s = (.ok value, s') := by
  rw [runFrom]
  simp only [bind, StateT.bind, made]
  rfl

theorem runFrom_of_error_last {e : Error} (made : attempt n s = (.error e, s')) :
    policy.runFrom pause operation attempt 0 n s =
      (.error (.retryExhausted operation policy.attempts e.message), s') := by
  rw [runFrom]
  simp only [bind, StateT.bind, made]
  rfl

theorem runFrom_of_error {e : Error} (made : attempt n s = (.error e, s')) :
    policy.runFrom pause operation attempt (left + 1) n s =
      policy.runFrom pause operation attempt left (n + 1) (pause policy.interval s').2 := by
  rw [runFrom]
  simp only [bind, StateT.bind, made]
  rfl

end RetryPolicy

/-! ## Timelines -/

/-- A clock, and the attempts so far: their numbers and their times. -/
structure Timeline where
  /-- The time in milliseconds. -/
  now : Nat := 0
  attempts : List (Nat × Nat) := []
deriving DecidableEq, Inhabited, Repr

namespace Timeline

variable {α : Type}

/-- Note an attempt. -/
def noted (t : Timeline) (n : Nat) : Timeline :=
  { t with attempts := t.attempts ++ [(n, t.now)] }

/-- Make attempt `n`, which has the `n`-th of the given outcomes and takes no time. -/
def attempt (outcome : Nat → Except Error α) (n : Nat) : StateM Timeline (Except Error α) :=
  fun t => (outcome n, t.noted n)

/-- Let time pass. -/
def pause (d : Duration) : StateM Timeline Unit := fun t =>
  ((), { t with now := t.now + d.pauseTicks })

/-- So many attempts, numbered from `first` on, one `interval` after the other from `start` on. -/
def series (first start interval count : Nat) : List (Nat × Nat) :=
  (List.range count).map fun i => (first + i, start + i * interval)

theorem series_succ (first start interval count : Nat) :
    series first start interval (count + 1) =
      (first, start) :: series (first + 1) (start + interval) interval count := by
  rw [series, List.range_succ_eq_map, List.map_cons, Nat.add_zero, Nat.zero_mul, Nat.add_zero,
    List.map_map]
  refine congrArg _ (List.map_congr_left fun i _ => Prod.ext ?_ ?_)
  · show first + (i + 1) = first + 1 + i
    omega
  · show start + (i + 1) * interval = start + interval + i * interval
    rw [Nat.succ_mul]
    omega

/-- A timeline on which so many attempts are made, with a pause between each two of them. -/
def upTo (t : Timeline) (first interval count : Nat) : Timeline where
  now := t.now + (count - 1) * interval
  attempts := t.attempts ++ series first t.now interval count

theorem upTo_one (t : Timeline) (first interval : Nat) : t.upTo first interval 1 = t.noted first := by
  rw [upTo, series_succ, Nat.sub_self, Nat.zero_mul, Nat.add_zero]
  rfl

/-- The further attempts begin where the first one and the pause behind it have ended. -/
theorem upTo_succ (t : Timeline) (first interval count : Nat) :
    t.upTo first interval (count + 2) =
      Timeline.upTo ⟨t.now + interval, (t.noted first).attempts⟩ (first + 1) interval
        (count + 1) := by
  have time : t.now + (count + 1) * interval = t.now + interval + count * interval := by
    rw [Nat.succ_mul]
    omega
  rw [upTo, upTo, noted, series_succ first, List.append_assoc, List.singleton_append]
  exact congrArg (Timeline.mk · _) time

end Timeline

/-! ## Runs -/

namespace RetryPolicy

variable {α : Type} (policy : RetryPolicy) (operation : String) (outcome : Nat → Except Error α)

/-- The course of a run from attempt `n` on, with so many attempts left behind it: after `more`
failures there is a success, or a failure that no attempt is left behind. -/
structure RunsTo (left n : Nat) (t : Timeline) (more : Nat) (result : Except Error α) : Prop where
  within : more ≤ left
  run : policy.runFrom Timeline.pause operation (Timeline.attempt outcome) left n t =
    (result, t.upTo n policy.interval.pauseTicks (more + 1))
  failed : ∀ i < more, ∃ e, outcome (n + i) = .error e
  ends : (∃ value, outcome (n + more) = .ok value ∧ result = .ok value) ∨
    (more = left ∧ ∃ e, outcome (n + more) = .error e ∧
      result = .error (.retryExhausted operation policy.attempts e.message))

variable {policy operation outcome} {left n : Nat} {t : Timeline}

theorem attempt_of_outcome {result : Except Error α} (made : outcome n = result) :
    Timeline.attempt outcome n t = (result, t.noted n) := congrArg (·, t.noted n) made

theorem runsTo_ok {value : α} (made : outcome n = .ok value) :
    policy.RunsTo operation outcome left n t 0 (.ok value) where
  within := Nat.zero_le left
  run := t.upTo_one n _ ▸ runFrom_of_ok (attempt_of_outcome made)
  failed i below := absurd below i.not_lt_zero
  ends := .inl ⟨value, made, rfl⟩

theorem runsTo_exhausted {e : Error} (made : outcome n = .error e) :
    policy.RunsTo operation outcome 0 n t 0
      (.error (.retryExhausted operation policy.attempts e.message)) where
  within := Nat.le_refl 0
  run := t.upTo_one n _ ▸ runFrom_of_error_last (attempt_of_outcome made)
  failed i below := absurd below i.not_lt_zero
  ends := .inr ⟨rfl, e, made, rfl⟩

theorem RunsTo.again {e : Error} (made : outcome n = .error e) {more : Nat}
    {result : Except Error α}
    (rest : policy.RunsTo operation outcome left (n + 1)
      ⟨t.now + policy.interval.pauseTicks, (t.noted n).attempts⟩ more result) :
    policy.RunsTo operation outcome (left + 1) n t (more + 1) result where
  within := Nat.succ_le_succ rest.within
  run := by
    rw [runFrom_of_error (attempt_of_outcome made), Timeline.upTo_succ]
    exact rest.run
  failed i below := by
    cases i with
    | zero => exact ⟨e, made⟩
    | succ i =>
        have later := rest.failed i (Nat.lt_of_succ_lt_succ below)
        rwa [Nat.add_right_comm n 1 i] at later
  ends := by
    have ends := rest.ends
    rw [Nat.add_right_comm n 1 more] at ends
    exact ends.imp_right fun ⟨all, exhausted⟩ => ⟨congrArg Nat.succ all, exhausted⟩

/-- Every run ends: it goes on while its attempts fail and some are left. -/
theorem exists_runsTo (left n : Nat) (t : Timeline) :
    ∃ more result, policy.RunsTo operation outcome left n t more result := by
  induction left generalizing n t with
  | zero =>
      cases made : outcome n with
      | ok value => exact ⟨0, _, runsTo_ok made⟩
      | error e => exact ⟨0, _, runsTo_exhausted made⟩
  | succ left ih =>
      cases made : outcome n with
      | ok value => exact ⟨0, _, runsTo_ok made⟩
      | error e =>
          obtain ⟨more, result, rest⟩ := ih (n + 1) _
          exact ⟨more + 1, result, rest.again made⟩

variable (policy operation outcome)

/-- **A bounded retry is exact**: a run makes the attempts `1, …, k`, each a pause after the one
before it, and none else, where `k` is the number of the first success, or the number of attempts of
the policy if there is no success among these; it yields that success, or the error that names the
operation, the number of attempts and the last error. A pause lasts for the interval, rounded up to
whole milliseconds, and for thirty years at most. -/
theorem run_on_timeline (start : Nat) :
    ∃ k result, 1 ≤ k ∧ k ≤ max 1 policy.steps ∧
      policy.run Timeline.pause operation (Timeline.attempt outcome) { now := start } =
        (result, {
          now := start + (k - 1) * min policy.interval.ticks Duration.longestPause
          attempts := (List.range k).map fun i =>
            (1 + i, start + i * min policy.interval.ticks Duration.longestPause) }) ∧
      (∀ n, 1 ≤ n → n < k → ∃ e, outcome n = .error e) ∧
      ((∃ value, outcome k = .ok value ∧ result = .ok value) ∨
        (k = max 1 policy.steps ∧ ∃ e, outcome k = .error e ∧
          result = .error (.retryExhausted operation k e.message))) := by
  obtain ⟨more, result, within, run, failed, ends⟩ :=
    @exists_runsTo α policy operation outcome (policy.attempts - 1) 1 { now := start }
  have some_attempt : 1 ≤ policy.attempts := Nat.le_max_left 1 policy.steps
  have within : 1 + more ≤ policy.attempts := by omega
  refine ⟨1 + more, result, Nat.le_add_right 1 more, within, ?_, fun n first before => ?_, ?_⟩
  case refine_1 =>
    rw [Nat.add_sub_cancel_left, Nat.add_comm 1 more]
    rw [Timeline.upTo, Nat.add_sub_cancel] at run
    exact run
  case refine_2 =>
    have earlier := failed (n - 1) (by omega)
    rwa [Nat.add_sub_cancel' first] at earlier
  case refine_3 =>
    rcases ends with success | ⟨last, e, made, exhausted⟩
    · exact .inl success
    · have all : 1 + more = policy.attempts := by omega
      exact .inr ⟨all, e, made, all ▸ exhausted⟩

end RetryPolicy

namespace Sample

/-- A policy whose interval is a second longer than thirty years. -/
def patient : RetryPolicy := { steps := 2, interval := .ofSeconds 946080001 }

/-- A failure at first, a success with every further attempt. -/
def secondTime (n : Nat) : Except Error Nat := if n = 1 then .error (.internal "x") else .ok n

end Sample

/-- The second attempt is made thirty years after the first one, although the interval is longer. -/
theorem sample_pause_cut :
    (Sample.patient.run Timeline.pause "far" (Timeline.attempt Sample.secondTime) {}).2.attempts =
        [(1, 0), (2, 946080000000)] ∧
      (Sample.patient.run Timeline.pause "far" (Timeline.attempt Sample.secondTime) {}).2.attempts ≠
        (List.range 2).map fun i => (1 + i, i * Sample.patient.interval.ticks) := by
  decide +kernel

/-! ## Trials -/

namespace Trial

/-- What comes of an attempt that has the number `n`. -/
def answer (n : Nat) : Option Error → Except Error Nat
  | none => .ok n
  | some e => .error e

/-- The outcome behind `i` others on a list, of which the last is used again and again. -/
def drawn (outcomes : List (Option Error)) (i : Nat) : Option Error :=
  (outcomes[i]?.or outcomes.getLast?).join

/-- The list of outcomes behind one attempt. -/
def further : List (Option Error) → List (Option Error)
  | [] => []
  | [outcome] => [outcome]
  | _ :: rest => rest

theorem drawn_succ (outcomes : List (Option Error)) (i : Nat) :
    drawn outcomes (i + 1) = drawn (further outcomes) i := by
  match outcomes with
  | [] => rfl
  | [outcome] => cases i <;> rfl
  | first :: second :: rest => rfl

theorem attempt_eq (n : Nat) (t : Trial) :
    Trial.attempt n t = (answer n (drawn t.outcomes 0),
      { t with outcomes := further t.outcomes, attempts := t.attempts ++ [(n, t.now)] }) := by
  obtain ⟨outcomes, now, attempts⟩ := t
  match outcomes with
  | [] => rfl
  | [outcome] => cases outcome <;> rfl
  | first :: second :: rest => cases first <;> rfl

/-- What a trial shows on its clock and of its attempts. -/
def timeline (t : Trial) : Timeline := ⟨t.now, t.attempts⟩

theorem runFrom_timeline (policy : RetryPolicy) (operation : String)
    {outcome : Nat → Except Error Nat} (left n : Nat) (t : Trial)
    (listed : ∀ i, outcome (n + i) = answer (n + i) (drawn t.outcomes i)) :
    Prod.map id timeline (policy.runFrom Trial.pause operation Trial.attempt left n t) =
      policy.runFrom Timeline.pause operation (Timeline.attempt outcome) left n t.timeline := by
  have made := attempt_eq n t
  rw [← show outcome n = answer n _ from listed 0] at made
  have noted : Timeline.attempt outcome n t.timeline = (outcome n, t.timeline.noted n) := rfl
  cases first : outcome n with
  | ok value =>
      rw [first] at made noted
      rw [RetryPolicy.runFrom_of_ok made, RetryPolicy.runFrom_of_ok noted]
      rfl
  | error e =>
      rw [first] at made noted
      cases left with
      | zero =>
          rw [RetryPolicy.runFrom_of_error_last made, RetryPolicy.runFrom_of_error_last noted]
          rfl
      | succ left =>
          rw [RetryPolicy.runFrom_of_error made, RetryPolicy.runFrom_of_error noted]
          refine runFrom_timeline policy operation left (n + 1) _ fun i => ?_
          have later := listed (i + 1)
          rwa [drawn_succ, Nat.add_comm i 1, ← Nat.add_assoc] at later

end Trial

/-- **A trial is a run on a timeline**, with the outcomes of its list, of which the last is used
again and again. -/
theorem RetryPolicy.trial_on_timeline (policy : RetryPolicy) (operation : String)
    (outcomes : List (Option Error)) :
    Prod.map id Trial.timeline (policy.trial operation outcomes) =
      policy.run Timeline.pause operation
        (Timeline.attempt fun n => Trial.answer n (Trial.drawn outcomes (n - 1))) {} := by
  refine Trial.runFrom_timeline policy operation _ 1 { outcomes } fun i => ?_
  rw [Nat.add_sub_cancel_left]

end VolumeHandover
