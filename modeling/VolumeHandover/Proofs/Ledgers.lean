import VolumeHandover.Proofs.Entries
import VolumeHandover.Reconcile

set_option autoImplicit false

/-! # What becomes of the ledger

Noting a report and handling an error are all that ever changes a ledger. Here it is said once what
each of them hands out, and what it does to each part of the ledger: the policy stays, the metrics
change by the attempt that is counted, and the only entry of the backoffs that changes is the one of
the claim. Nothing else of the ledger is read than this entry (`Ledger.Agrees.noted`).
-/

namespace VolumeHandover

/-! ## Entries of the backoffs -/

/-- What becomes of the entry of a claim. -/
def BackoffStep.apply (fresh : Backoff) (entry : Option Backoff) : BackoffStep → Option Backoff
  | .keep => entry
  | .reset => none
  | .advance => some (entry.getD fresh).grown

/-- The name under which the backoff of a claim is kept. -/
def Claim.uidName (claim : Claim) : String := claim.metadata.uid.getD ""

/-- What the handling of an error does to the backoff. -/
def Reaction.step : Reaction → BackoffStep
  | .backoff => .advance
  | .after _ | .never => .keep

theorem Reaction.step_eq_advance_iff {reaction : Reaction} :
    reaction.step = .advance ↔ reaction = .backoff := by
  cases reaction <;> simp [step]

/-! ## The parts of the ledger -/

namespace Ledger

variable (l : Ledger) (claim : Claim) (report : Report) (e : Error)

/-- The delay that is handed out next under a name. -/
def upcoming (uid : String) : Duration := ((l.backoffs.get? uid).getD l.policy.fresh).delay

theorem count_eq (attempt : Option (AttemptResult × Duration)) :
    (l.count attempt).backoffs = l.backoffs ∧ (l.count attempt).policy = l.policy := by
  cases attempt <;> exact ⟨rfl, rfl⟩

/-- Handing out a delay changes one entry. -/
theorem nextDelay_get? (uid key : String) : (l.nextDelay uid).2.backoffs.get? key =
    if key = uid then BackoffStep.advance.apply l.policy.fresh (l.backoffs.get? key)
    else l.backoffs.get? key := by
  refine (Table.get?_insert l.backoffs).trans ?_
  by_cases same : key = uid
  · rw [if_pos same, if_pos same, same]
    rfl
  · rw [if_neg same, if_neg same]

theorem note_result : (l.note claim report).1 = report.conclusion.map
    (outcome (if report.backoff = .advance then l.upcoming claim.uidName else ⟨0⟩)) := by
  obtain ⟨conclusion, attempt, backoff⟩ := report
  obtain ⟨backoffs, policy⟩ := l.count_eq attempt
  unfold note upcoming
  cases backoff with
  | keep | reset => rfl
  | advance =>
      dsimp only [nextDelay, Backoffs.next]
      rw [backoffs, policy]
      rfl

theorem note_policy : (l.note claim report).2.policy = l.policy := by
  obtain ⟨conclusion, attempt, backoff⟩ := report
  cases backoff <;> exact (l.count_eq attempt).2

theorem note_metrics : (l.note claim report).2.metrics = (l.count report.attempt).metrics := by
  unfold note
  cases report.backoff <;> rfl

/-- A pass changes the entry of its own claim only. -/
theorem note_get? (uid : String) : (l.note claim report).2.backoffs.get? uid =
    if uid = claim.uidName then report.backoff.apply l.policy.fresh (l.backoffs.get? uid)
    else l.backoffs.get? uid := by
  obtain ⟨conclusion, attempt, backoff⟩ := report
  obtain ⟨backoffs, policy⟩ := l.count_eq attempt
  unfold note
  rw [← backoffs, ← policy]
  cases backoff with
  | keep => exact (ite_self _).symm
  | reset => exact Table.get?_erase _
  | advance => exact (l.count attempt).nextDelay_get? claim.uidName uid

theorem afterError_result : (l.afterError claim e).1 =
    match e.reaction with
    | .backoff => some (l.upcoming claim.uidName)
    | .after delay => some delay
    | .never => none := by
  unfold afterError
  cases e.reaction <;> rfl

theorem afterError_policy : (l.afterError claim e).2.policy = l.policy := by
  unfold afterError
  cases e.reaction <;> rfl

theorem afterError_metrics : (l.afterError claim e).2.metrics = l.metrics := by
  unfold afterError
  cases e.reaction <;> rfl

/-- The handling of an error changes the entry of its own claim only. -/
theorem afterError_get? (uid : String) : (l.afterError claim e).2.backoffs.get? uid =
    if uid = claim.uidName then e.reaction.step.apply l.policy.fresh (l.backoffs.get? uid)
    else l.backoffs.get? uid := by
  unfold afterError
  cases e.reaction with
  | after | never => exact (ite_self _).symm
  | backoff => exact l.nextDelay_get? claim.uidName uid

end Ledger

/-! ## Ledgers that agree -/

/-- Two ledgers agree on the backoff that is kept under a name. -/
structure Ledger.Agrees (uid : String) (l l' : Ledger) : Prop where
  policy : l'.policy = l.policy
  entry : l'.backoffs.get? uid = l.backoffs.get? uid

theorem Ledger.Agrees.upcoming {uid : String} {l l' : Ledger} (agrees : l.Agrees uid l') :
    l'.upcoming uid = l.upcoming uid := by
  rw [Ledger.upcoming, agrees.entry, agrees.policy, Ledger.upcoming]

namespace Ledger

variable {l l' : Ledger} {claim : Claim}

/-- What a report comes to for its claim depends on no other backoff than the claim's own. -/
theorem Agrees.noted (agrees : l.Agrees claim.uidName l') (report : Report) :
    (l'.note claim report).1 = (l.note claim report).1 ∧
      (l.note claim report).2.Agrees claim.uidName (l'.note claim report).2 := by
  refine ⟨?_, ?_, ?_⟩
  · rw [note_result, note_result, agrees.upcoming]
  · rw [note_policy, note_policy, agrees.policy]
  · rw [note_get?, note_get?, agrees.policy, agrees.entry]

/-- A report changes no other backoff than the one of its claim. -/
theorem agrees_note (l : Ledger) {uid : String} (other : uid ≠ claim.uidName) (report : Report) :
    l.Agrees uid (l.note claim report).2 :=
  ⟨l.note_policy claim report, (l.note_get? claim report uid).trans (if_neg other)⟩

end Ledger

end VolumeHandover
