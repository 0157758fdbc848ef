import VolumeHandover.Proofs.Trace
import VolumeHandover.Reconcile

set_option autoImplicit false

/-! # The parts of a pass

A pass over a claim first finds out whether the claim is to be provisioned, which it does with
look-ups only (`gate_screened`). Then it provisions the claim between two glances at the clock, and
concludes (`pass_cases`), which takes one call at most (`ends_of_conclude`).
-/

namespace VolumeHandover

variable {driver : String} {provisioner : Provisioner} {claim : Claim} {h : List Exchange}

/-- A program looks things up only, and its result has a property. -/
def Program.LooksUp {α : Type} (p : Program α) (post : α → Prop) : Prop :=
  ∀ h o, p.Traces h o → (∀ x ∈ h, x.isLookup = true) ∧ ∀ a, o = some a → post a

namespace Program.LooksUp

variable {α : Type} {post : α → Prop}

theorem done {a : α} (ha : post a) : (Program.done a).LooksUp post := by
  intro h o run
  obtain ⟨rfl, ho⟩ := traces_done_iff.mp run
  refine ⟨fun x hx => absurd hx List.not_mem_nil, fun b hb => ?_⟩
  rcases ho with rfl | rfl
  · cases hb
  · exact Option.some.inj hb ▸ ha

theorem ask {l : Lookup} {next : Option l.Answer → Program α}
    (rest : ∀ answer, (next answer).LooksUp post) : (Program.ask (.find l) next).LooksUp post := by
  intro h o run
  rcases traces_ask_iff.mp run with ⟨rfl, rfl⟩ | ⟨answer, h', rfl, onward⟩
  · exact ⟨fun x hx => absurd hx List.not_mem_nil, nofun⟩
  · obtain ⟨looks, result⟩ := rest answer h' o onward
    refine ⟨fun x hx => ?_, result⟩
    rcases List.mem_cons.mp hx with rfl | hx
    · rfl
    · exact looks x hx

/-- What a decision looks up it goes on with. -/
theorem find {ε β : Type} {post : Except ε β → Prop} {l : Lookup}
    {f : Option l.Answer → ExceptT ε Program β} (rest : ∀ answer, (f answer).run.LooksUp post) :
    ((liftM (Program.request (.find l)) : ExceptT ε Program _) >>= f).run.LooksUp post :=
  ask rest

theorem mono {p : Program α} {weaker : α → Prop} (h : p.LooksUp post)
    (le : ∀ a, post a → weaker a) : p.LooksUp weaker := by
  intro t o run
  obtain ⟨looks, result⟩ := h t o run
  exact ⟨looks, fun a ha => le a (result a ha)⟩

end Program.LooksUp

namespace Pass

/-- The claim neither is bound nor is being deleted. -/
structure Open (claim : Claim) : Prop where
  unbound : claim.volumeName? = none
  live : claim.metadata.deletionTimestamp = none

/-- What is reported of a claim that is turned away at the gate. -/
inductive TurnedAway (claim : Claim) : Report → Prop
  | bound (h : claim.volumeName?.isSome = true) : TurnedAway claim (ignore .bound .reset)
  | beingDeleted (h : claim.metadata.deletionTimestamp.isSome = true) :
      TurnedAway claim (ignore .beingDeleted .reset)
  | ignored (isOpen : Open claim) {reason : Disregard} (other : reason ≠ .bound) :
      TurnedAway claim (ignore reason)
  | failed (isOpen : Open claim) (e : Error) : TurnedAway claim ⟨.error e, none, .keep⟩

/-- How the gate is passed: with the options for the claim, or with a report that does not say that
the claim is bound. -/
def Gated (claim : Claim) : Except Report ProvisionOptions → Prop
  | .error report => report.attempt = none ∧ report.conclusion ≠ .ok (.ignored .bound)
  | .ok options => options.claim = claim ∧
      ∃ uid, claim.metadata.uid = some uid ∧ options.volumeName = "pvc-" ++ uid

/-- A claim that names a volume is left alone at once. -/
theorem gate_of_bound (h : claim.volumeName?.isSome = true) :
    (gate driver claim).run = .done (.error (ignore .bound .reset)) := by
  unfold gate
  rw [if_pos h]
  rfl

/-- What the gate makes of a claim: it turns the claim away, or lets it pass with the options. -/
def Screened (claim : Claim) : Except Report ProvisionOptions → Prop
  | .error report => TurnedAway claim report
  | .ok options => Open claim ∧ options.claim = claim ∧
      ∃ uid, claim.metadata.uid = some uid ∧ options.volumeName = "pvc-" ++ uid

/-- The gate lets only claims pass that are open, and says of all others why it turns them away. -/
theorem gate_screened : (gate driver claim).run.LooksUp (Screened claim) := by
  by_cases bound : claim.volumeName?.isSome = true
  · rw [gate_of_bound bound]
    exact .done (.bound bound)
  unfold gate
  rw [if_neg bound]
  by_cases deleted : claim.metadata.deletionTimestamp.isSome = true
  · dsimp only
    rw [if_pos deleted]
    exact .done (.beingDeleted deleted)
  dsimp only
  rw [if_neg deleted]
  have isOpen : Open claim :=
    ⟨Option.not_isSome_iff_eq_none.mp bound, Option.not_isSome_iff_eq_none.mp deleted⟩
  cases className? claim with
  | none => exact .done (.ignored isOpen nofun)
  | some name =>
      refine .find fun shown => ?_
      cases shown with
      | none => exact .done (.ignored isOpen nofun)
      | some c =>
          dsimp only
          by_cases other : c.provisioner ≠ driver
          · rw [if_pos other]
            exact .done (.ignored isOpen nofun)
          rw [if_neg other]
          cases claim.annotated? selectedNodeKey with
          | none => exact .done (.ignored isOpen nofun)
          | some nodeName =>
              refine .find fun shown => ?_
              cases shown with
              | none => exact .done (.failed isOpen _)
              | some node =>
                  dsimp only
                  unfold volumeNameFor
                  cases uid : claim.metadata.uid with
                  | none => exact .done (.failed isOpen _)
                  | some u => exact .done ⟨isOpen, rfl, u, uid, rfl⟩

theorem gate_of_unbound (h : claim.volumeName? = none) :
    (gate driver claim).run.LooksUp (Gated claim) := by
  refine gate_screened.mono fun result judged => ?_
  cases result with
  | ok options => exact judged.2
  | error report =>
      cases judged with
      | bound bound => simp [h] at bound
      | beingDeleted => exact ⟨rfl, nofun⟩
      | ignored _ other => exact ⟨rfl, fun same => other (by cases same; rfl)⟩
      | failed _ e => exact ⟨rfl, nofun⟩

/-- What is done after an attempt to provision a claim, and reported. -/
inductive Ends (claim : Claim) (elapsed : Duration) :
    Except Failure Volume → List Exchange → Report → Prop
  | provisioned {volume : Volume} {created : Except Error Volume}
      (tolerated : ∀ e, created = .error e → e.isAlreadyExists = true) :
      Ends claim elapsed (.ok volume) [⟨.call (.createVolume volume), created⟩]
        ⟨.ok (.provisioned volume.anyName), some (.success, elapsed), .reset⟩
  | uncreated {volume : Volume} {e : Error} (denied : e.isAlreadyExists = false) :
      Ends claim elapsed (.ok volume) [⟨.call (.createVolume volume), .error e⟩]
        ⟨.error e, some (.inBackground, elapsed), .keep⟩
  | finished {e : Error} :
      Ends claim elapsed (.error ⟨.finished, e⟩) []
        ⟨.ok .awaitChange, some (.failed, elapsed), .reset⟩
  | rescheduled {e : Error} {patched : Claim} :
      Ends claim elapsed (.error ⟨.reschedule, e⟩)
        [⟨.call (.patchClaim claim.spaceName claim.anyName Patch.clearSelectedNode), .ok patched⟩]
        ⟨.ok .rescheduled, some (.rescheduled, elapsed), .reset⟩
  | unpatched {e e' : Error} :
      Ends claim elapsed (.error ⟨.reschedule, e⟩)
        [⟨.call (.patchClaim claim.spaceName claim.anyName Patch.clearSelectedNode), .error e'⟩]
        ⟨.error e', some (.rescheduled, elapsed), .reset⟩
  | inBackground {e : Error} :
      Ends claim elapsed (.error ⟨.inBackground, e⟩) []
        ⟨.ok .continueLater, some (.inBackground, elapsed), .advance⟩

theorem ends_of_conclude {result : Except Failure Volume} {elapsed : Duration} {report : Report}
    (run : (conclude claim result elapsed).Traces h (some report)) :
    Ends claim elapsed result h report := by
  unfold conclude at run
  cases result with
  | ok volume =>
      obtain ⟨created, h', rfl, rest⟩ := Program.traces_ask_some_iff.mp run
      cases created with
      | ok volume' =>
          obtain ⟨rfl, rfl⟩ := Program.traces_done_some_iff.mp rest
          exact .provisioned nofun
      | error e =>
          dsimp only [Program.bind] at rest
          by_cases there : e.isAlreadyExists = true
          · rw [if_pos there] at rest
            obtain ⟨rfl, rfl⟩ := Program.traces_done_some_iff.mp rest
            exact .provisioned fun e' same => Except.error.inj same ▸ there
          · rw [if_neg there] at rest
            obtain ⟨rfl, rfl⟩ := Program.traces_done_some_iff.mp rest
            exact .uncreated (Bool.eq_false_iff.mpr there)
  | error failure =>
      obtain ⟨disposition, e⟩ := failure
      cases disposition with
      | finished =>
          obtain ⟨rfl, rfl⟩ := Program.traces_done_some_iff.mp run
          exact .finished
      | reschedule =>
          obtain ⟨patched, h', rfl, rest⟩ := Program.traces_ask_some_iff.mp run
          cases patched with
          | ok patched =>
              obtain ⟨rfl, rfl⟩ := Program.traces_done_some_iff.mp rest
              exact .rescheduled
          | error e' =>
              obtain ⟨rfl, rfl⟩ := Program.traces_done_some_iff.mp rest
              exact .unpatched
      | inBackground =>
          obtain ⟨rfl, rfl⟩ := Program.traces_done_some_iff.mp run
          exact .inBackground

end Pass

/-- A pass over a claim that names a volume makes no request. -/
theorem pass_of_bound (h : claim.volumeName?.isSome = true) :
    pass driver provisioner claim = .done (Pass.ignore .bound .reset) := by
  unfold pass
  rw [Pass.gate_of_bound h]
  rfl

/-- A pass that stops has been stopped at the gate, or has gone through all its parts. -/
theorem pass_cases {report : Report}
    (run : (pass driver provisioner claim).Traces h (some report)) :
    (Pass.gate driver claim).run.Traces h (some (.error report)) ∨
    ∃ options h₀ h₁ h₂ started result ended,
      h = h₀ ++ ⟨.clock, started⟩ :: (h₁ ++ ⟨.clock, ended⟩ :: h₂) ∧
      (Pass.gate driver claim).run.Traces h₀ (some (.ok options)) ∧
      (provisioner options).Traces h₁ (some result) ∧
      (Pass.conclude claim result (.ofMillis (ended - started))).Traces h₂ (some report) := by
  unfold pass at run
  -- a run that has a report was not interrupted in any of the parts
  obtain ⟨passed, h₀, rest, gated, onward, rfl⟩ := Program.traces_bind_some run
  cases passed with
  | error early =>
      obtain ⟨rfl, rfl⟩ := Program.traces_done_some_iff.mp onward
      rw [List.append_nil]
      exact .inl gated
  | ok options =>
      obtain ⟨started, rest, rfl, timed⟩ := Program.traces_ask_some_iff.mp onward
      dsimp only [Program.bind] at timed
      obtain ⟨result, h₁, rest, provisioned, last, rfl⟩ := Program.traces_bind_some timed
      obtain ⟨ended, h₂, rfl, concluded⟩ := Program.traces_ask_some_iff.mp last
      exact .inr ⟨options, h₀, h₁, h₂, started, result, ended, rfl, gated, provisioned,
        concluded⟩

end VolumeHandover
