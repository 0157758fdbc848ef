import VolumeHandover.Proofs.BackoffRuns
import VolumeHandover.Proofs.PassScope

set_option autoImplicit false

/-! # Metrics account for every attempt

A pass notes its attempt in the metrics where it ends, and it has many ends: at the gate, after the
volume has been created or not, and after each kind of failure, whether or not the claim can be
patched then. Over passes in any number and order the metrics hold one sample and one count for each
attempt that has come back (`metrics_account_for_passes`). The counts say how the passes have ended,
and how the attempts have where a pass may still fail behind them.
-/

namespace VolumeHandover

/-! ## What others see of a pass -/

/-- Whether an exchange is the failure to create a volume that is not there yet. -/
def Exchange.denies (volume : Volume) (x : Exchange) : Bool :=
  match x with
  | ⟨.call (.createVolume wanted), .error e⟩ => wanted = volume && !e.isAlreadyExists
  | _ => false

/-- A pass as others see it. -/
structure PassRecord where
  /-- What the pass has asked of its surroundings, with the answers. -/
  exchanges : List Exchange
  /-- What the provisioner has returned, if it was called. -/
  result? : Option (Except Failure Volume)
  outcome : Except Error Outcome

namespace PassRecord

/-- The provisioner has returned. -/
def isAttempt (r : PassRecord) : Bool := r.result?.isSome

/-- The claim has got its volume. -/
def isProvisioned (r : PassRecord) : Bool :=
  match r.outcome with
  | .ok (.provisioned _) => true
  | _ => false

/-- Nothing is to be done until the claim changes. -/
def awaitsChange (r : PassRecord) : Bool :=
  match r.outcome with
  | .ok .awaitChange => true
  | _ => false

/-- The provisioner has failed in a certain way. -/
def failedAs (disposition : Disposition) (r : PassRecord) : Bool :=
  match r.result? with
  | some (.error failure) => failure.disposition = disposition
  | _ => false

/-- The provisioner has returned a volume, and then, which is the last that such a pass does, this
volume could not be created and was not there either. -/
def isUncreated (r : PassRecord) : Bool :=
  match r.result? with
  | some (.ok volume) => r.exchanges.getLast?.any (·.denies volume)
  | _ => false

/-- What is seen of a pass agrees with the result under which it is counted. -/
structure Shows (r : PassRecord) (counted : Option AttemptResult) : Prop where
  attempt : r.isAttempt = counted.isSome
  success : r.isProvisioned = (counted == some .success)
  failed : r.awaitsChange = (counted == some .failed)
  rescheduled : r.failedAs .reschedule = (counted == some .rescheduled)
  inBackground : (r.failedAs .inBackground).toNat + r.isUncreated.toNat =
    (counted == some .inBackground).toNat

/-- What a pass does last tells whether the volume was created that the provisioner returned. -/
theorem isUncreated_of_last {h₀ h₁ : List Exchange} {started ended last : Exchange}
    {volume : Volume} {outcome : Except Error Outcome} :
    isUncreated ⟨h₀ ++ started :: (h₁ ++ ended :: [last]), some (.ok volume), outcome⟩ =
      last.denies volume := by
  have ends : h₀ ++ started :: (h₁ ++ ended :: [last]) =
      (h₀ ++ started :: (h₁ ++ [ended])) ++ [last] := by simp
  simp only [isUncreated, ends, List.getLast?_concat, Option.any_some]

end PassRecord

variable {driver : String} {provisioner : Provisioner}

/-- A pass shows the result under which it is counted. -/
theorem Pass.Goes.shows {claim : Claim} {h : List Exchange}
    {result? : Option (Except Failure Volume)} {report : Report} {delay : Duration}
    (goes : Goes driver provisioner claim h result? report) :
    PassRecord.Shows ⟨h, result?, report.conclusion.map (Ledger.outcome delay)⟩
      (report.attempt.map (·.1)) := by
  cases goes with
  | turnedAway gate =>
      have away : TurnedAway claim report := (gate_screened _ _ gate).2 _ rfl
      cases away <;> exact ⟨rfl, rfl, rfl, rfl, rfl⟩
  | attempted gate provisioned concluded =>
      cases ends_of_conclude concluded with
      | @provisioned volume created tolerated =>
          refine ⟨rfl, rfl, rfl, rfl, ?_⟩
          rw [PassRecord.isUncreated_of_last]
          cases created with
          | ok volume' => rfl
          | error e =>
              show 0 + (decide (volume = volume) && !e.isAlreadyExists).toNat = 0
              rw [tolerated e rfl, Bool.not_true, Bool.and_false]
              rfl
      | @uncreated volume e denied =>
          refine ⟨rfl, rfl, rfl, rfl, ?_⟩
          rw [PassRecord.isUncreated_of_last]
          show 0 + (decide (volume = volume) && !e.isAlreadyExists).toNat = 1
          rw [denied, decide_eq_true rfl]
          rfl
      | finished | rescheduled | unpatched | inBackground => exact ⟨rfl, rfl, rfl, rfl, rfl⟩

/-! ## What is counted -/

/-- Results are counted under different labels. -/
theorem AttemptResult.label_injective : Function.Injective label := by
  intro a b same
  cases a <;> cases b <;> first | rfl | exact absurd same (by decide)

theorem AttemptResult.isSome_eq_sum (counted : Option AttemptResult) :
    counted.isSome.toNat = (counted == some .success).toNat + (counted == some .failed).toNat +
      (counted == some .rescheduled).toNat + (counted == some .inBackground).toNat := by
  rcases counted with _ | (_ | _ | _ | _) <;> rfl

namespace Metrics

/-- The number of attempts that are counted with a result. -/
def countOf (m : Metrics) (result : AttemptResult) : Nat := m.count result.label

theorem countOf_observe (m : Metrics) (result other : AttemptResult) (elapsed : Duration) :
    (m.observe result.label elapsed).countOf other =
      m.countOf other + (some result == some other).toNat := by
  unfold countOf count observe
  by_cases same : other = result
  · rw [same, Table.get?_insert_self, beq_self_eq_true]
    rfl
  · have labels : other.label ≠ result.label := fun h => same (AttemptResult.label_injective h)
    rw [Table.get?_insert_of_ne _ labels, beq_false_of_ne fun h => same (Option.some.inj h).symm]
    rfl

end Metrics

namespace Ledger

variable (l : Ledger) (claim : Claim) (report : Report)

theorem note_countOf (result : AttemptResult) :
    (l.note claim report).2.metrics.countOf result =
      l.metrics.countOf result + (report.attempt.map (·.1) == some result).toNat := by
  rw [note_metrics]
  cases report.attempt with
  | none => rfl
  | some attempt => exact l.metrics.countOf_observe attempt.1 result attempt.2

theorem note_samples : (l.note claim report).2.metrics.samples.length =
    l.metrics.samples.length + (report.attempt.map (·.1)).isSome.toNat := by
  rw [note_metrics]
  cases report.attempt with
  | none => rfl
  | some attempt => exact List.length_append

end Ledger

/-! ## Runs of passes -/

/-- Passes over claims, with what is seen of each, in the order in which they reach the ledger, from
a ledger `start` on. The handling of errors may come in between. -/
inductive Passes (driver : String) (provisioner : Provisioner) (start : Ledger) :
    List PassRecord → Ledger → Prop
  | begun : Passes driver provisioner start [] start
  | passed {records : List PassRecord} {l : Ledger} {claim : Claim} {h : List Exchange}
      {result? : Option (Except Failure Volume)} {report : Report}
      (before : Passes driver provisioner start records l)
      (goes : Pass.Goes driver provisioner claim h result? report) :
      Passes driver provisioner start (records ++ [⟨h, result?, (l.note claim report).1⟩])
        (l.note claim report).2
  | failed {records : List PassRecord} {l : Ledger} (claim : Claim) (e : Error)
      (before : Passes driver provisioner start records l) :
      Passes driver provisioner start records (l.afterError claim e).2

/-- Reconcile claims one after another. -/
def World.reconcileAll (w : World) (r : Reconciler) : List Claim → Reconciler × World
  | [] => (r, w)
  | claim :: rest =>
      let once := w.reconcile r claim
      once.world.reconcileAll once.reconciler rest

/-- Reconciling claims one after another, in any world, is a run of as many passes. -/
theorem Passes.exists_reconcileAll {start ledger : Ledger} {records : List PassRecord}
    (before : Passes driver provisioner start records ledger) (w : World) (claims : List Claim) :
    ∃ later, later.length = claims.length ∧
      Passes driver provisioner start (records ++ later)
        (w.reconcileAll ⟨driver, provisioner, ledger⟩ claims).1.ledger := by
  induction claims generalizing records ledger w with
  | nil => exact ⟨[], rfl, (List.append_nil records).symm ▸ before⟩
  | cons claim rest ih =>
      obtain ⟨result?, goes⟩ := Pass.goes_of_run
        (Program.traces_run World.answer (pass driver provisioner claim) w)
      obtain ⟨later, length, run⟩ := ih (before.passed goes)
        (w.reconcile ⟨driver, provisioner, ledger⟩ claim).world
      rw [List.append_assoc] at run
      exact ⟨_, congrArg (· + 1) length, run⟩

namespace Metrics

/-- The metrics agree with what has been seen of the passes so far. -/
structure AccountFor (m : Metrics) (records : List PassRecord) : Prop where
  /-- There is one sample for each time that the provisioner has returned. -/
  samples : m.samples.length = records.countP (·.isAttempt)
  /-- Each attempt is counted once. -/
  counts : m.samples.length =
    m.countOf .success + m.countOf .failed + m.countOf .rescheduled + m.countOf .inBackground
  success : m.countOf .success = records.countP (·.isProvisioned)
  failed : m.countOf .failed = records.countP (·.awaitsChange)
  rescheduled : m.countOf .rescheduled = records.countP (·.failedAs .reschedule)
  inBackground : m.countOf .inBackground =
    records.countP (·.failedAs .inBackground) + records.countP (·.isUncreated)

theorem accountFor_nil : ({} : Metrics).AccountFor [] := ⟨rfl, rfl, rfl, rfl, rfl, rfl⟩

/-- Metrics account for one pass more if they count it once, under the result that it shows. -/
theorem AccountFor.concat {m m' : Metrics} {records : List PassRecord} {r : PassRecord}
    {counted : Option AttemptResult} (before : m.AccountFor records) (shows : r.Shows counted)
    (samples : m'.samples.length = m.samples.length + counted.isSome.toNat)
    (counts : ∀ result, m'.countOf result = m.countOf result + (counted == some result).toNat) :
    m'.AccountFor (records ++ [r]) := by
  have one (p : PassRecord → Bool) :
      (records ++ [r]).countP p = records.countP p + (p r).toNat := by
    rw [List.countP_append, List.countP_singleton]
    cases p r <;> rfl
  constructor
  · rw [one, samples, before.samples, shows.attempt]
  · rw [samples, before.counts, AttemptResult.isSome_eq_sum, counts, counts, counts, counts]
    omega
  · rw [one, counts, before.success, shows.success]
  · rw [one, counts, before.failed, shows.failed]
  · rw [one, counts, before.rescheduled, shows.rescheduled]
  · rw [one, one, counts, before.inBackground, ← shows.inBackground]
    omega

end Metrics

/-- **Metrics account for every attempt.** After passes over any claims, in any order and with any
answers, there are as many samples as attempts have come back and as the counts sum up to, and each
count is the number of the passes that show its result. -/
theorem metrics_account_for_passes {start l : Ledger} {records : List PassRecord}
    (run : Passes driver provisioner start records l) (fresh : start.metrics = {}) :
    l.metrics.AccountFor records := by
  induction run with
  | begun =>
      rw [fresh]
      exact Metrics.accountFor_nil
  | @passed records l claim h result? report before goes ih =>
      rw [l.note_result claim report]
      exact ih.concat goes.shows (l.note_samples claim report) (l.note_countOf claim report)
  | @failed records l claim e before ih =>
      rw [l.afterError_metrics claim e]
      exact ih

namespace Sample

/-- A world in which the provisioner returns a volume twice and then fails in each of the three
ways, while the creation of the second volume fails. -/
def eventful : World :=
  { requested {
      method := .createVolume
      skip := 1
      error := timedOut "create" "PersistentVolume" "pv-data" } with
    understudy := { script := [.ok (Cluster.boundVolume placedClaim),
      .ok (Cluster.boundVolume placedClaim), .error ⟨.finished, .missingStorageClass⟩,
      .error ⟨.reschedule, .missingStorageClass⟩, .error ⟨.inBackground, .watchClosed "pvc-u"⟩] } }

/-- The same claim five times, and at last bound. -/
def reconsidered : List Claim :=
  List.replicate 5 placedClaim ++ [Cluster.boundClaim placedClaim]

/-- What comes of reconciling these claims there. -/
def afterEvents : Reconciler × World :=
  eventful.reconcileAll { provisioner := delegate } reconsidered

end Sample

/-- Six passes, of which five are attempts: one provisions the claim, one fails for good, one gives
the claim back, and two are to be continued, of which one could not create the volume. -/
theorem sample_attempts_counted :
    ∃ records, Passes defaultDriverName delegate {} records Sample.afterEvents.1.ledger ∧
      records.length = 6 ∧ records.countP (·.isAttempt) = 5 ∧
      records.countP (·.isProvisioned) = 1 ∧ records.countP (·.awaitsChange) = 1 ∧
      records.countP (·.failedAs .reschedule) = 1 ∧
      records.countP (·.failedAs .inBackground) + records.countP (·.isUncreated) = 2 := by
  have fresh : Passes defaultDriverName delegate {} [] {} := .begun
  obtain ⟨records, length, run⟩ := fresh.exists_reconcileAll Sample.eventful Sample.reconsidered
  have account : Sample.afterEvents.1.ledger.metrics.AccountFor records :=
    metrics_account_for_passes run rfl
  refine ⟨records, run, length, ?_, ?_, ?_, ?_, ?_⟩
  · rw [← account.samples]
    decide +kernel
  · rw [← account.success]
    decide +kernel
  · rw [← account.failed]
    decide +kernel
  · rw [← account.rescheduled]
    decide +kernel
  · rw [← account.inBackground]
    decide +kernel

end VolumeHandover
