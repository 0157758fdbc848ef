import VolumeHandover.Cluster.Sample
import VolumeHandover.Proofs.Entries
import VolumeHandover.Proofs.Ledgers
import VolumeHandover.Proofs.Passes
import Mathlib.Data.List.Induction
import Mathlib.Logic.Function.Iterate

set_option autoImplicit false

/-! # Backoff over whole runs

The ledger keeps one table of backoffs for all claims, which passes and the handling of their
errors advance and reset. Over a run of any length, however the turns of claims are mixed, this is
one counter for each claim (`backoff_refines`): a delay that is handed out for a claim is the one
that a fresh backoff hands out after as many delays as were handed out for this claim since its
last reset.

A turn stands where it reaches the ledger, which a pass does once. So passes may overlap, and
what they are answered is left open.
-/

namespace VolumeHandover

/-! ## Counting on a backoff -/

theorem Backoff.delayAfter_eq (b : Backoff) (count : Nat) :
    b.delayAfter count = (Backoff.grown^[count] b).delay := by
  induction count generalizing b with
  | zero => rw [Backoff.delayAfter, Function.iterate_zero_apply]
  | succ count ih => rw [Backoff.delayAfter, Function.iterate_succ_apply, ih]

/-- The entry of a claim for which `count` delays have been handed out since the last reset. -/
def BackoffPolicy.entry (p : BackoffPolicy) : Nat → Option Backoff
  | 0 => none
  | count + 1 => some (Backoff.grown^[count + 1] p.fresh)

namespace BackoffPolicy

variable (p : BackoffPolicy) (count : Nat)

theorem entry_getD : (p.entry count).getD p.fresh = Backoff.grown^[count] p.fresh := by
  cases count <;> rfl

theorem entry_succ : p.entry (count + 1) = some ((p.entry count).getD p.fresh).grown := by
  rw [entry_getD, entry, Function.iterate_succ_apply']

theorem entry_delay : ((p.entry count).getD p.fresh).delay = p.fresh.delayAfter count := by
  rw [entry_getD, Backoff.delayAfter_eq]

end BackoffPolicy

/-! ## What a pass reports -/

namespace Pass

variable {driver : String} {provisioner : Provisioner} {claim : Claim}
  {result : Except Failure Volume} {report : Report} {h : List Exchange}

/-- What is reported of an attempt to provision a claim. -/
inductive Concluded : Except Failure Volume → Report → Prop
  | provisioned (volume : Volume) (attempt : Option (AttemptResult × Duration)) :
      Concluded (.ok volume) ⟨.ok (.provisioned volume.anyName), attempt, .reset⟩
  | uncreated (volume : Volume) (e : Error) (attempt : Option (AttemptResult × Duration)) :
      Concluded (.ok volume) ⟨.error e, attempt, .keep⟩
  | finished (e : Error) (attempt : Option (AttemptResult × Duration)) :
      Concluded (.error ⟨.finished, e⟩) ⟨.ok .awaitChange, attempt, .reset⟩
  | rescheduled (e : Error) (attempt : Option (AttemptResult × Duration)) :
      Concluded (.error ⟨.reschedule, e⟩) ⟨.ok .rescheduled, attempt, .reset⟩
  | unpatched (e e' : Error) (attempt : Option (AttemptResult × Duration)) :
      Concluded (.error ⟨.reschedule, e⟩) ⟨.error e', attempt, .reset⟩
  | inBackground (e : Error) (attempt : Option (AttemptResult × Duration)) :
      Concluded (.error ⟨.inBackground, e⟩) ⟨.ok .continueLater, attempt, .advance⟩

theorem conclude_concluded (elapsed : Duration) :
    (conclude claim result elapsed).Yields (fun _ => True) (Concluded result) := by
  intro h report run _
  cases ends_of_conclude run with
  | provisioned => exact .provisioned _ _
  | uncreated => exact .uncreated _ _ _
  | finished => exact .finished _ _
  | rescheduled => exact .rescheduled _ _
  | unpatched => exact .unpatched _ _ _
  | inBackground => exact .inBackground _ _

/-- How a pass over a claim goes: what it is answered, what the provisioner says, if it is called,
and what is reported. -/
inductive Goes (driver : String) (provisioner : Provisioner) (claim : Claim) :
    List Exchange → Option (Except Failure Volume) → Report → Prop
  | turnedAway {h : List Exchange} {report : Report}
      (gate : (gate driver claim).run.Traces h (some (.error report))) :
      Goes driver provisioner claim h none report
  | attempted {options : ProvisionOptions} {h₀ h₁ h₂ : List Exchange} {started ended : Nat}
      {result : Except Failure Volume} {report : Report}
      (gate : (gate driver claim).run.Traces h₀ (some (.ok options)))
      (provisioned : (provisioner options).Traces h₁ (some result))
      (concluded :
        (conclude claim result (.ofMillis (ended - started))).Traces h₂ (some report)) :
      Goes driver provisioner claim
        (h₀ ++ ⟨.clock, started⟩ :: (h₁ ++ ⟨.clock, ended⟩ :: h₂)) (some result) report

/-- Every pass goes in one of these ways, whatever it is answered. -/
theorem goes_of_run (run : (pass driver provisioner claim).Traces h (some report)) :
    ∃ result?, Goes driver provisioner claim h result? report := by
  rcases pass_cases run with
    early | ⟨options, h₀, h₁, h₂, started, result, ended, rfl, passed, provisioned, concluded⟩
  · exact ⟨none, .turnedAway early⟩
  · exact ⟨some result, .attempted passed provisioned concluded⟩

end Pass

/-! ## Turns -/

/-- What the controller does about a claim, and what comes of it. -/
inductive Turn where
  /-- A pass over the claim, with what the provisioner said, if it was called. -/
  | passed (claim : Claim) (result? : Option (Except Failure Volume))
      (outcome : Except Error Outcome)
  /-- The handling of an error of a pass over the claim, with the delay until the next one. -/
  | failed (claim : Claim) (e : Error) (delay? : Option Duration)

namespace Turn

/-- The claim of a turn. -/
def claim : Turn → Claim
  | .passed claim _ _ | .failed claim _ _ => claim

/-- Whether a turn is about the claim with the given uid. -/
def isOf (uid : String) (t : Turn) : Bool := t.claim.metadata.uid = some uid

/-- The delay that the backoff hands out in a turn. -/
def handed? : Turn → Option Duration
  | .passed _ _ (.ok (.requeueAfter delay)) => some delay
  | .passed _ _ _ => none
  | .failed _ e delay? => if e.reaction = .backoff then delay? else none

/-- Whether the backoff begins anew: a pass finds its claim bound or being deleted, or it ends with
the claim provisioned or with nothing to do until the claim changes, or the provisioner gives the
claim back to be rescheduled. -/
def resets : Turn → Bool
  | .passed claim result? outcome =>
      claim.volumeName?.isSome || claim.metadata.deletionTimestamp.isSome ||
        (match outcome with
          | .ok (.provisioned _) | .ok .awaitChange => true
          | _ => false) ||
        match result? with
        | some (.error failure) => failure.disposition = .reschedule
        | _ => false
  | .failed _ _ _ => false

/-- What a turn does to the backoff of its claim. -/
def step (t : Turn) : BackoffStep :=
  if t.resets then .reset else if t.handed?.isSome then .advance else .keep

end Turn

/-- The ledger takes a turn, which shows what comes of it. -/
inductive Ledger.Step (driver : String) (provisioner : Provisioner) (l : Ledger) :
    Turn → Ledger → Prop
  | passed {claim : Claim} {h : List Exchange} {result? : Option (Except Failure Volume)}
      {report : Report} (goes : Pass.Goes driver provisioner claim h result? report) :
      Step driver provisioner l (.passed claim result? (l.note claim report).1)
        (l.note claim report).2
  | failed (claim : Claim) (e : Error) :
      Step driver provisioner l (.failed claim e (l.afterError claim e).1)
        (l.afterError claim e).2

/-- Turns in the order in which they reach the ledger, from a ledger `start` on. -/
inductive Turns (driver : String) (provisioner : Provisioner) (start : Ledger) :
    List Turn → Ledger → Prop
  | begun : Turns driver provisioner start [] start
  | next {turns : List Turn} {l l' : Ledger} {t : Turn}
      (before : Turns driver provisioner start turns l) (step : l.Step driver provisioner t l') :
      Turns driver provisioner start (turns ++ [t]) l'

/-! ## One turn -/

variable {driver : String} {provisioner : Provisioner}

/-- The turn of a pass shows what the pass does to the backoff. -/
theorem Pass.Goes.shown {claim : Claim} {h : List Exchange}
    {result? : Option (Except Failure Volume)} {report : Report} {delay : Duration}
    {outcome : Except Error Outcome} (goes : Goes driver provisioner claim h result? report)
    (noted : outcome = report.conclusion.map
      (Ledger.outcome (if report.backoff = .advance then delay else ⟨0⟩))) :
    (Turn.passed claim result? outcome).step = report.backoff ∧
      (Turn.passed claim result? outcome).handed? =
        if report.backoff = .advance then some delay else none := by
  rw [noted]
  cases goes with
  | turnedAway gate =>
      have away : TurnedAway claim report := (gate_screened _ _ gate).2 _ rfl
      cases away with
      | bound bound => exact ⟨by simp [Turn.step, Turn.resets, bound, ignore], rfl⟩
      | beingDeleted deleted => exact ⟨by simp [Turn.step, Turn.resets, deleted, ignore], rfl⟩
      | ignored isOpen other =>
          refine ⟨?_, rfl⟩
          simp [Turn.step, Turn.resets, Turn.handed?, isOpen.unbound, isOpen.live, ignore,
            Except.map, Ledger.outcome]
      | failed isOpen e =>
          refine ⟨?_, rfl⟩
          simp [Turn.step, Turn.resets, Turn.handed?, isOpen.unbound, isOpen.live, Except.map]
  | attempted gate provisioned concluded =>
      obtain ⟨isOpen, -⟩ : Open claim ∧ _ := (gate_screened _ _ gate).2 _ rfl
      have concluded := conclude_concluded _ _ _ concluded fun _ _ => trivial
      cases concluded with
      | provisioned => exact ⟨by simp [Turn.step, Turn.resets, Except.map, Ledger.outcome], rfl⟩
      | uncreated =>
          refine ⟨?_, rfl⟩
          simp [Turn.step, Turn.resets, Turn.handed?, isOpen.unbound, isOpen.live, Except.map]
      | finished => exact ⟨by simp [Turn.step, Turn.resets, Except.map, Ledger.outcome], rfl⟩
      | rescheduled | unpatched => exact ⟨by simp [Turn.step, Turn.resets], rfl⟩
      | inBackground =>
          refine ⟨?_, rfl⟩
          simp [Turn.step, Turn.resets, Turn.handed?, isOpen.unbound, isOpen.live, Except.map,
            Ledger.outcome]

/-- All that a turn does to the ledger: a delay that is handed out is the one that is up for the
claim, and the entry of the claim changes as the turn shows. -/
structure Ledger.Takes (l : Ledger) (t : Turn) (l' : Ledger) : Prop where
  policy : l'.policy = l.policy
  handed : t.handed? = if t.step = .advance then some (l.upcoming t.claim.uidName) else none
  entry : ∀ uid, l'.backoffs.get? uid =
    if uid = t.claim.uidName then t.step.apply l.policy.fresh (l.backoffs.get? uid)
    else l.backoffs.get? uid

namespace Ledger

variable (l : Ledger)

theorem takes_passed {claim : Claim} {h : List Exchange}
    {result? : Option (Except Failure Volume)} {report : Report}
    (goes : Pass.Goes driver provisioner claim h result? report) :
    l.Takes (.passed claim result? (l.note claim report).1) (l.note claim report).2 := by
  obtain ⟨step, handed⟩ := goes.shown (l.note_result claim report)
  refine ⟨l.note_policy claim report, ?_, fun uid => ?_⟩
  · rw [step]
    exact handed
  · rw [step]
    exact l.note_get? claim report uid

theorem takes_failed (claim : Claim) (e : Error) :
    l.Takes (.failed claim e (l.afterError claim e).1) (l.afterError claim e).2 := by
  have handed : (Turn.failed claim e (l.afterError claim e).1).handed? =
      if e.reaction = .backoff then some (l.upcoming claim.uidName) else none := by
    rw [l.afterError_result]
    dsimp only [Turn.handed?]
    by_cases backs : e.reaction = .backoff
    · rw [if_pos backs, if_pos backs, backs]
    · rw [if_neg backs, if_neg backs]
  have step : (Turn.failed claim e (l.afterError claim e).1).step = e.reaction.step := by
    unfold Turn.step
    rw [handed]
    by_cases backs : e.reaction = .backoff
    · rw [if_pos backs, backs]
      rfl
    · rw [if_neg backs]
      cases reaction : e.reaction with
      | backoff => exact absurd reaction backs
      | after | never => rfl
  refine ⟨l.afterError_policy claim e, ?_, fun uid => ?_⟩
  · rw [handed, step]
    simp only [Reaction.step_eq_advance_iff]
    rfl
  · rw [step]
    exact l.afterError_get? claim e uid

/-- What a turn does to the ledger, whatever kind of turn it is. -/
theorem Step.takes {l l' : Ledger} {t : Turn} (step : l.Step driver provisioner t l') :
    l.Takes t l' := by
  cases step with
  | passed goes => exact l.takes_passed goes
  | failed claim e => exact l.takes_failed claim e

end Ledger

/-- Ledgers that agree still agree when both have taken the same turn. -/
theorem Ledger.Agrees.taken {uid : String} {l l' l₁ l₁' : Ledger} {t : Turn}
    (agrees : l.Agrees uid l') (takes : l.Takes t l₁) (takes' : l'.Takes t l₁') :
    l₁.Agrees uid l₁' := by
  refine ⟨?_, ?_⟩
  · rw [takes.policy, takes'.policy, agrees.policy]
  · rw [takes.entry, takes'.entry, agrees.entry, agrees.policy]

/-- The turn of another claim changes nothing for a claim. -/
theorem Ledger.Takes.elsewhere {uid : String} {l l₁ l' : Ledger} {t : Turn} (takes : l.Takes t l₁)
    (other : uid ≠ t.claim.uidName) (agrees : l.Agrees uid l') : l₁.Agrees uid l' := by
  refine ⟨?_, ?_⟩
  · rw [takes.policy, agrees.policy]
  · rw [takes.entry, if_neg other, agrees.entry]

namespace Turn

variable {uid : String} {t : Turn} {count : Nat}

theorem isOf_iff (named : uid ≠ "") : t.isOf uid = true ↔ uid = t.claim.uidName := by
  unfold isOf Claim.uidName
  rw [decide_eq_true_iff]
  cases t.claim.metadata.uid with
  | none => exact iff_of_false nofun named
  | some u => exact ⟨fun same => (Option.some.inj same).symm, fun same => congrArg some same.symm⟩

end Turn

/-- What comes of a turn depends on the entry of its claim only. -/
theorem Ledger.Step.again {l l' l₁ : Ledger} {t : Turn} {uid : String}
    (step : l.Step driver provisioner t l₁) (agrees : l.Agrees uid l')
    (key : uid = t.claim.uidName) : ∃ l₁', l'.Step driver provisioner t l₁' := by
  cases step with
  | @passed claim h result? report goes =>
      have agrees : l.Agrees claim.uidName l' := key ▸ agrees
      rw [← (agrees.noted report).1]
      exact ⟨_, .passed goes⟩
  | failed claim e =>
      have same : (l'.afterError claim e).1 = (l.afterError claim e).1 := by
        have key : uid = claim.uidName := key
        rw [l.afterError_result, l'.afterError_result, ← key, agrees.upcoming]
      rw [← same]
      exact ⟨_, .failed claim e⟩

namespace Turns

variable {start l : Ledger} {turns : List Turn} {uid : String}

/-- A pass over any claim, in any surroundings, is a turn. -/
theorem exists_passed {σ : Type} (before : Turns driver provisioner start turns l)
    (answer : (r : Request) → σ → r.Answer × σ) (claim : Claim) (surroundings : σ) :
    ∃ result?, Turns driver provisioner start
      (turns ++ [.passed claim result?
        (l.note claim ((pass driver provisioner claim).run answer surroundings).1).1])
      (l.note claim ((pass driver provisioner claim).run answer surroundings).1).2 := by
  obtain ⟨result?, goes⟩ := Pass.goes_of_run
    (Program.traces_run answer (pass driver provisioner claim) surroundings)
  exact ⟨result?, before.next (.passed goes)⟩

/-- The last turn is taken by the ledger that the turns before it leave. -/
theorem last_step {t : Turn} (run : Turns driver provisioner start (turns ++ [t]) l) :
    ∃ l₁, Turns driver provisioner start turns l₁ ∧ l₁.Step driver provisioner t l := by
  generalize all : turns ++ [t] = whole at run
  cases run with
  | begun => exact absurd all (by simp)
  | next before step =>
      obtain ⟨rfl, same⟩ := List.append_inj' all rfl
      obtain rfl := List.head_eq_of_cons_eq same
      exact ⟨_, before, step⟩

/-- The turns of one claim, without the others, are a run that comes to the same for the claim. -/
theorem alone (run : Turns driver provisioner start turns l) (named : uid ≠ "") :
    ∃ l', Turns driver provisioner start (turns.filter (Turn.isOf uid)) l' ∧ l.Agrees uid l' := by
  induction run with
  | begun => exact ⟨start, .begun, rfl, rfl⟩
  | @next turns l l₁ t before step ih =>
      obtain ⟨l', run', agrees⟩ := ih
      rw [List.filter_append]
      by_cases ours : t.isOf uid = true
      · obtain ⟨l₁', step'⟩ := step.again agrees ((Turn.isOf_iff named).mp ours)
        rw [List.filter_cons_of_pos ours]
        exact ⟨l₁', run'.next step', agrees.taken step.takes step'.takes⟩
      · have other : uid ≠ t.claim.uidName := fun key => ours ((Turn.isOf_iff named).mpr key)
        rw [List.filter_cons_of_neg ours, List.filter_nil, List.append_nil]
        exact ⟨l', run', step.takes.elsewhere other agrees⟩

end Turns

namespace Sample

/-- A claim that is provisioned at last. -/
def waiting : Claim := claim "apps" "data" "u" "hybrid"

/-- The handling of an error after which to come back with a growing delay. -/
def stumble (l : Ledger) : Turn :=
  .failed waiting (.watchClosed "pvc-u") (l.afterError waiting (.watchClosed "pvc-u")).1

/-- The ledger after the first such turn. -/
def stumbled : Ledger := (({} : Ledger).afterError waiting (.watchClosed "pvc-u")).2

end Sample

end VolumeHandover
