import VolumeHandover.Proofs.BackoffRuns
import VolumeHandover.Proofs.FinishedPasses
import VolumeHandover.Proofs.GrowingDelays

set_option autoImplicit false

/-! # Failing passes and the backoff

A pass that fails leaves the backoffs as they are; it is the handling of its error that hands out a
delay. So the delays of a claim do not get shorter while passes over it fail or ask to be made again
(`delays_grow_unless_given_back`).

There is one exception. If the provisioner gives a claim back, the backoff begins anew before the
claim is patched, and it stays so if the patch fails and the pass with it
(`sample_backoff_forgotten`).
-/

namespace VolumeHandover

/-! ## Passes that fail -/

namespace Pass

/-- Whether the provisioner, if it was called, gives the claim back to be rescheduled. -/
def givesBack : Option (Except Failure Volume) → Bool
  | some (.error failure) => failure.disposition = .reschedule
  | _ => false

variable {driver : String} {provisioner : Provisioner} {claim : Claim} {h : List Exchange}
  {result? : Option (Except Failure Volume)} {report : Report} {e : Error}

/-- A pass that fails keeps the backoff, unless the claim was to be given back. -/
theorem Goes.backoff_of_error (goes : Goes driver provisioner claim h result? report)
    (fails : report.conclusion = .error e) :
    report.backoff = if givesBack result? then .reset else .keep := by
  cases goes with
  | turnedAway gate =>
      have away : TurnedAway claim report := (gate_screened _ _ gate).2 _ rfl
      cases away with
      | failed => rfl
      | bound | beingDeleted | ignored => cases fails
  | attempted gate provisioned concluded =>
      have concluded := conclude_concluded _ _ _ concluded fun _ _ => trivial
      cases concluded with
      | uncreated | unpatched => rfl
      | provisioned | finished | rescheduled | inBackground => cases fails

end Pass

namespace Ledger

variable {driver : String} {provisioner : Provisioner} {l l' : Ledger} {claim : Claim}
  {report : Report}

theorem note_keep (keeps : report.backoff = .keep) :
    (l.note claim report).2.backoffs = l.backoffs := by
  unfold note
  rw [keeps]
  exact (l.count_eq report.attempt).1

theorem note_reset (resets : report.backoff = .reset) :
    (l.note claim report).2.backoffs = l.backoffs.reset claim.uidName := by
  unfold note
  rw [resets]
  exact congrArg (Backoffs.reset · _) (l.count_eq report.attempt).1

theorem conclusion_of_failed {e : Error} (noted : (l.note claim report).1 = .error e) :
    report.conclusion = .error e := by
  rw [l.note_result] at noted
  cases said : report.conclusion with
  | ok conclusion =>
      rw [said] at noted
      cases noted
  | error e' =>
      rw [said] at noted
      cases noted
      rfl

/-- What a failing pass leaves of the backoffs. -/
theorem Step.failed_backoffs {result? : Option (Except Failure Volume)} {e : Error}
    (step : l.Step driver provisioner (.passed claim result? (.error e)) l') :
    l'.backoffs =
      if Pass.givesBack result? then l.backoffs.reset claim.uidName else l.backoffs := by
  generalize turn : Turn.passed claim result? (.error e) = t at step
  cases step with
  | failed => cases turn
  | passed goes =>
      obtain ⟨rfl, rfl, noted⟩ := Turn.passed.inj turn
      have backoff := goes.backoff_of_error (conclusion_of_failed noted.symm)
      cases gives : Pass.givesBack result? with
      | true => exact note_reset (by rw [backoff, gives]; rfl)
      | false => exact note_keep (by rw [backoff, gives]; rfl)

end Ledger

/-! ## Turns after which a claim waits -/

namespace Turn

/-- Whether the claim is gone on with later: a pass over it asks for that or fails, or an error of
such a pass is handled. -/
def isUnfinished : Turn → Bool
  | .passed _ _ (.ok (.requeueAfter _)) | .passed _ _ (.error _) | .failed _ _ _ => true
  | .passed _ _ (.ok _) => false

/-- Whether the provisioner gives the claim back in a turn. -/
def givesBack : Turn → Bool
  | .passed _ result? _ => Pass.givesBack result?
  | .failed _ _ _ => false

end Turn

namespace Ledger

variable {driver : String} {provisioner : Provisioner} {l l' : Ledger} {t : Turn}
  {p : BackoffPolicy} {key : String} {count : Nat}

/-- Such a turn does not reset the backoff, unless the claim is given back. -/
theorem Step.ne_reset (step : l.Step driver provisioner t l') (unfinished : t.isUnfinished = true)
    (retained : t.givesBack = false) : t.step ≠ .reset := by
  cases step with
  | failed claim e =>
      have resumes : (Turn.failed claim e (l.afterError claim e).1).resets = false := rfl
      unfold Turn.step
      rw [resumes, if_neg Bool.false_ne_true]
      split <;> nofun
  | @passed claim h result? report goes =>
      obtain ⟨shown, handed⟩ := goes.shown (l.note_result claim report)
      rw [shown]
      cases noted : (l.note claim report).1 with
      | error e =>
          have retained : Pass.givesBack result? = false := retained
          rw [goes.backoff_of_error (conclusion_of_failed noted), retained]
          nofun
      | ok outcome =>
          rw [noted] at unfinished handed
          cases outcome with
          | requeueAfter delay =>
              by_cases advances : report.backoff = .advance
              · rw [advances]
                nofun
              · rw [if_neg advances] at handed
                cases handed
          | ignored | provisioned | awaitChange | rescheduled => cases unfinished

/-- So many delays are counted under a name. -/
structure Counts (l : Ledger) (p : BackoffPolicy) (key : String) (count : Nat) : Prop where
  policy : l.policy = p
  entry : l.backoffs.get? key = p.entry count

/-- What a turn does to the count. -/
theorem Counts.taken (counts : l.Counts p key count) (takes : l.Takes t l') :
    l'.Counts p key (if key = t.claim.uidName then
      match t.step with
      | .keep => count
      | .reset => 0
      | .advance => count + 1
    else count) := by
  refine ⟨takes.policy.trans counts.policy, ?_⟩
  rw [takes.entry]
  by_cases ours : key = t.claim.uidName
  · rw [if_pos ours, if_pos ours, counts.policy, counts.entry]
    cases t.step with
    | keep | reset => rfl
    | advance => exact (p.entry_succ count).symm
  · rw [if_neg ours, if_neg ours]
    exact counts.entry

/-- A turn that does not reset the backoff does not take back what has been counted. -/
theorem Counts.taken_le (counts : l.Counts p key count) (takes : l.Takes t l')
    (calm : t.claim.uidName = key → t.step ≠ .reset) :
    ∃ count', count ≤ count' ∧ l'.Counts p key count' := by
  refine ⟨_, ?_, counts.taken takes⟩
  by_cases ours : key = t.claim.uidName
  · rw [if_pos ours]
    cases step : t.step with
    | keep => exact le_refl count
    | reset => exact absurd step (calm ours.symm)
    | advance => exact Nat.le_succ count
  · rw [if_neg ours]

/-- A delay that is handed out is the one due after as many as are counted, and is counted. -/
theorem Counts.handed {delay : Duration} (counts : l.Counts p t.claim.uidName count)
    (takes : l.Takes t l') (handed : t.handed? = some delay) :
    delay = p.fresh.delayAfter count ∧ l'.Counts p t.claim.uidName (count + 1) := by
  have due := handed.symm.trans takes.handed
  have after := counts.taken takes
  rw [if_pos rfl] at after
  by_cases advances : t.step = .advance
  · rw [if_pos advances] at due
    rw [advances] at after
    refine ⟨?_, after⟩
    rw [Option.some.inj due, upcoming, counts.policy, counts.entry, p.entry_delay]
  · rw [if_neg advances] at due
    cases due

end Ledger

/-! ## Stretches of a run -/

namespace Turns

variable {driver : String} {provisioner : Provisioner} {start l : Ledger} {turns : List Turn}
  {p : BackoffPolicy} {key : String}

/-- A run splits into a first and a second part. -/
theorem split {before after : List Turn}
    (run : Turns driver provisioner start (before ++ after) l) :
    ∃ l₁, Turns driver provisioner start before l₁ ∧ Turns driver provisioner l₁ after l := by
  induction after using List.reverseRecOn generalizing l with
  | nil =>
      rw [List.append_nil] at run
      exact ⟨l, run, .begun⟩
  | append_singleton front last ih =>
      rw [← List.append_assoc] at run
      obtain ⟨l', earlier, step⟩ := run.last_step
      obtain ⟨l₁, first, second⟩ := ih earlier
      exact ⟨l₁, first, second.next step⟩

theorem eq_of_nil (run : Turns driver provisioner start [] l) : l = start := by
  generalize none : [] = turns at run
  cases run with
  | begun => rfl
  | next => exact absurd none (by simp)

/-- A run that begins with a turn goes on from the ledger that has taken it. -/
theorem first_step {t : Turn} (run : Turns driver provisioner start (t :: turns) l) :
    ∃ l₁, start.Step driver provisioner t l₁ ∧ Turns driver provisioner l₁ turns l := by
  rw [← List.singleton_append] at run
  obtain ⟨l₁, first, rest⟩ := run.split
  rw [← List.nil_append [t]] at first
  obtain ⟨l₀, none, step⟩ := first.last_step
  obtain rfl := none.eq_of_nil
  exact ⟨l₁, step, rest⟩

/-- In a run from a ledger without backoffs there is a count for each name. -/
theorem exists_counts (run : Turns driver provisioner start turns l)
    (fresh : start.backoffs = .empty) (key : String) :
    ∃ count, l.Counts start.policy key count := by
  induction run with
  | begun => exact ⟨0, rfl, by rw [fresh]; rfl⟩
  | next before step ih =>
      obtain ⟨count, counts⟩ := ih
      exact ⟨_, counts.taken step.takes⟩

/-- While passes over a claim stay unfinished, and it is not given back, the count does not go
back. -/
theorem counts_le {count : Nat} (run : Turns driver provisioner start turns l)
    (counts : start.Counts p key count)
    (waits : ∀ t ∈ turns, t.claim.uidName = key → t.isUnfinished = true ∧ t.givesBack = false) :
    ∃ count', count ≤ count' ∧ l.Counts p key count' := by
  induction run with
  | begun => exact ⟨count, le_refl count, counts⟩
  | @next turns l l' t before step ih =>
      obtain ⟨count', le, counts'⟩ := ih fun u hu => waits u (List.mem_append_left _ hu)
      have calm : t.claim.uidName = key → t.step ≠ .reset := by
        intro ours
        obtain ⟨unfinished, retained⟩ := waits t List.mem_concat_self ours
        exact step.ne_reset unfinished retained
      obtain ⟨count'', le', counts''⟩ := counts'.taken_le step.takes calm
      exact ⟨count'', le.trans le', counts''⟩

end Turns

/-- **A failing pass keeps the backoff**, unless the provisioner gives the claim back. So between
two delays that are handed out for a claim, the second is not shorter if all turns of the claim in
between leave it unfinished and none gives it back; the first delay must not be longer than the
longest, which has a bound. -/
theorem delays_grow_unless_given_back (driver : String) (provisioner : Provisioner) :
    (∀ (l l' : Ledger) claim result? e,
      l.Step driver provisioner (.passed claim result? (.error e)) l' →
      l'.backoffs =
        if Pass.givesBack result? then l.backoffs.reset claim.uidName else l.backoffs) ∧
    ∀ (start l : Ledger) before t between t' later delay delay',
      Turns driver provisioner start (before ++ t :: (between ++ t' :: later)) l →
      start.backoffs = .empty → start.policy.initial.nanos ≤ start.policy.maximum.nanos →
      start.policy.maximum.nanos ≤ 2 ^ 62 → t'.claim.uidName = t.claim.uidName →
      (∀ u ∈ between, u.claim.uidName = t.claim.uidName →
        u.isUnfinished = true ∧ u.givesBack = false) →
      t.handed? = some delay → t'.handed? = some delay' → delay.nanos ≤ delay'.nanos := by
  refine ⟨fun l l' claim result? e step => step.failed_backoffs, ?_⟩
  intro start l before t between t' later delay delay' run fresh ordered small same waits
    handed handed'
  obtain ⟨l₁, earlier, run⟩ := run.split
  obtain ⟨l₂, step, run⟩ := run.first_step
  obtain ⟨l₃, stretch, run⟩ := run.split
  obtain ⟨l₄, step', -⟩ := run.first_step
  obtain ⟨count, counts⟩ := earlier.exists_counts fresh t.claim.uidName
  obtain ⟨first, counts⟩ := counts.handed step.takes handed
  obtain ⟨count', le, counts⟩ := stretch.counts_le counts waits
  rw [← same] at counts
  obtain ⟨second, -⟩ := counts.handed step'.takes handed'
  rw [first, second]
  exact Backoff.delayAfter_mono ordered small (Nat.le_of_succ_le le)

namespace Sample

/-- A world in which a claim is to be provisioned on a node that is gone. -/
def nodeless : World where
  cluster := (zones.addStorageClass (hybridClass "hybrid" "there")).addClaim placedClaim

/-- A pass over the claim that does not find the selected node. -/
def unplaceable : Turn := .passed placedClaim none (.error (.notFound "Node" "near"))

/-- A world in which a claim is to be given back, while a patch of a claim fails once. -/
def unpatchable : World :=
  { offering "there" with
    failures := [{
      method := .patchClaim
      error := timedOut "patch" "PersistentVolumeClaim" "data" }] }

/-- What comes of reconciling the claim there, after two delays have been handed out for it. -/
def givenBack : Reconciled :=
  unpatchable.reconcile
    (.handingOver defaultDriverName {} (stumbled.afterError waiting (.watchClosed "pvc-u")).2)
    placedClaim

end Sample

/-- A pass that does not find the selected node of a claim keeps the backoff, and the delay after it
is not shorter than the one before. -/
theorem sample_failing_pass :
    (∃ l', Sample.stumbled.Step defaultDriverName delegate Sample.unplaceable l' ∧
      l'.backoffs = Sample.stumbled.backoffs) ∧
    ∃ delay delay', (Sample.stumble {}).handed? = some delay ∧
      (Sample.stumble Sample.stumbled).handed? = some delay' ∧ delay.nanos ≤ delay'.nanos := by
  have gate := Program.traces_run World.answer
    (Pass.gate defaultDriverName Sample.placedClaim).run Sample.nodeless
  have turned : ((Pass.gate defaultDriverName Sample.placedClaim).run.run World.answer
      Sample.nodeless).1 = .error ⟨.error (.notFound "Node" "near"), none, .keep⟩ := rfl
  rw [turned] at gate
  have fails : Sample.stumbled.Step defaultDriverName delegate Sample.unplaceable
      Sample.stumbled := .passed (.turnedAway gate)
  have first : Turns defaultDriverName delegate {} [Sample.stumble {}] Sample.stumbled :=
    Turns.begun.next (.failed _ _)
  have last := (first.next fails).next (.failed Sample.waiting (.watchClosed "pvc-u"))
  have waits : ∀ u ∈ [Sample.unplaceable], u.claim.uidName = (Sample.stumble {}).claim.uidName →
      u.isUnfinished = true ∧ u.givesBack = false := by
    intro u hu _
    rw [List.mem_singleton.mp hu]
    exact ⟨rfl, rfl⟩
  obtain ⟨keeps, grows⟩ := delays_grow_unless_given_back defaultDriverName delegate
  refine ⟨⟨_, fails, keeps _ _ _ _ _ fails⟩, .ofSeconds 1, .ofMillis 1500, by decide +kernel,
    by decide +kernel, ?_⟩
  exact grows {} _ [] (Sample.stumble {}) [Sample.unplaceable] (Sample.stumble Sample.stumbled) []
    _ _ last rfl (by decide +kernel) (by decide +kernel) (by decide +kernel) waits
    (by decide +kernel) (by decide +kernel)

/-- If the patch fails with which a claim is to be given back, the pass fails, and yet the backoff
has begun anew: after one second and one and a half the delay is one second again. -/
theorem sample_backoff_forgotten :
    (Sample.stumble Sample.stumbled).handed? = some (.ofMillis 1500) ∧
    ∃ e, Sample.givenBack.outcome = .error e ∧
      Sample.givenBack.reconciler.ledger.backoffs.get? "u" = none ∧
      (Sample.givenBack.reconciler.ledger.afterError Sample.placedClaim e).1 =
        some (.ofSeconds 1) :=
  ⟨by decide +kernel, Sample.timedOut "patch" "PersistentVolumeClaim" "data", by decide +kernel,
    by decide +kernel, by decide +kernel⟩

end VolumeHandover
