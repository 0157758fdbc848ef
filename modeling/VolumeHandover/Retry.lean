import VolumeHandover.Error

set_option autoImplicit false

/-! # Bounded retries

An operation that may fail for a while is attempted a fixed number of times, with a pause of
constant length between two attempts and none after the last. The first success ends it; if
there is none, the error names the operation, the number of attempts and the last error.
-/

namespace VolumeHandover

structure RetryPolicy where
  /-- The number of attempts; at least one is made. -/
  steps : Nat := 5
  interval : Duration := .ofSeconds 10
deriving DecidableEq, Inhabited, Repr

namespace RetryPolicy

def attempts (policy : RetryPolicy) : Nat := max 1 policy.steps

/-- Make attempt `n` and, while it fails, up to `left` more. -/
def runFrom {m : Type → Type} [Monad m] {α : Type} (policy : RetryPolicy)
    (pause : Duration → m Unit) (operation : String) (attempt : Nat → m (Except Error α))
    (left n : Nat) : m (Except Error α) := do
  match ← attempt n with
  | .ok value => return .ok value
  | .error e =>
      match left with
      | 0 => return .error (.retryExhausted operation policy.attempts e.message)
      | left + 1 => do
          pause policy.interval
          policy.runFrom pause operation attempt left (n + 1)
termination_by structural left

/-- Attempt an operation, the attempts being numbered from one on. -/
def run {m : Type → Type} [Monad m] {α : Type} (policy : RetryPolicy)
    (pause : Duration → m Unit) (operation : String) (attempt : Nat → m (Except Error α)) :
    m (Except Error α) :=
  policy.runFrom pause operation attempt (policy.attempts - 1) 1

end RetryPolicy

/-! ## Trial runs -/

/-- A trial of an operation whose outcomes are given, on a clock of its own. -/
structure Trial where
  /-- The outcomes to come, none standing for success; the last is used again and again, and
  without any the operation succeeds. -/
  outcomes : List (Option Error)
  /-- The time in milliseconds. -/
  now : Nat := 0
  /-- The attempts so far: their numbers and their times. -/
  attempts : List (Nat × Nat) := []
deriving Inhabited

namespace Trial

/-- Make an attempt, which yields its number if it succeeds. -/
def attempt (n : Nat) : StateM Trial (Except Error Nat) := fun t =>
  let (outcome, outcomes) : Option Error × List (Option Error) :=
    match t.outcomes with
    | [] => (none, [])
    | [outcome] => (outcome, [outcome])
    | outcome :: rest => (outcome, rest)
  (match outcome with
    | none => .ok n
    | some e => .error e,
    { t with outcomes, attempts := t.attempts ++ [(n, t.now)] })

def pause (d : Duration) : StateM Trial Unit := fun t =>
  ((), { t with now := t.now + d.pauseTicks })

end Trial

def RetryPolicy.trial (policy : RetryPolicy) (operation : String)
    (outcomes : List (Option Error)) : Except Error Nat × Trial :=
  policy.run Trial.pause operation Trial.attempt { outcomes }

end VolumeHandover
