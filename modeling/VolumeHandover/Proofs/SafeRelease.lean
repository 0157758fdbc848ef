import VolumeHandover.Proofs.Waiting

set_option autoImplicit false

/-! # No volume is lost on release

When a call to provision deletes its proxy claim, the volume that this names has been told to stay,
and nothing protects the claim any more (`removals_safe`). This needs that the others leave the
proxy claim and its volume alone from the moment when it is bound (`LeavesBound`), and that a call
hears of a deletion that takes effect: otherwise it would delete a claim of the same name that
somebody else has created meanwhile.
-/

namespace VolumeHandover

/-- The reclaim policy of a volume. -/
def Volume.policy? (v : Volume) : Option String := v.spec.bind (·.reclaimPolicy)

namespace Cluster

/-- The volume of a name is to stay when its claim is gone. -/
def Retains (s : Cluster) (name : String) : Prop :=
  ∃ volume, s.volume? name = some volume ∧ volume.policy? = some retainPolicy

/-- The claim under a key is bound to a volume that is to stay, and nothing protects it. -/
structure Releasable (s : Cluster) (key : String) (claim : Claim) (name : String) : Prop where
  stored : s.claim? key = some claim
  bound : claim.isBound = true
  named : claim.volumeName? = some name
  retained : s.Retains name
  unprotected : protectionFinalizer ∉ claim.finalizers

variable {s s' : Cluster} {key name : String} {claim : Claim}

theorem LeavesBound.retains (h : s.LeavesBound key s') (stored : s.claim? key = some claim)
    (bound : claim.isBound = true) (named : claim.volumeName? = some name)
    (retains : s.Retains name) : s'.Retains name := by
  obtain ⟨volume, found, policy⟩ := retains
  exact ⟨volume, (h.volume claim name stored bound named).trans found, policy⟩

theorem LeavesBound.releasable (h : s.LeavesBound key s') (ready : s.Releasable key claim name) :
    s'.Releasable key claim name where
  stored := h.claim claim ready.stored ready.bound
  bound := ready.bound
  named := ready.named
  retained := h.retains ready.stored ready.bound ready.named ready.retained
  unprotected := ready.unprotected

end Cluster

namespace Occurrence

/-- The request is not answered with an error. -/
def Acknowledged (x : Occurrence) : Prop := ∀ c e, x.exchange ≠ ⟨.call c, .error e⟩

/-- The claim that is removed under a key names a volume that is there and is to stay, and does
not carry the finalizer that protects it, which the journal confirms. -/
def RemovesSafely (x : Occurrence) (key : String) : Prop :=
  ∃ claim name volume, x.before.claim? key = some claim ∧ claim.volumeName? = some name ∧
    x.after.volume? name = some volume ∧ volume.policy? = some retainPolicy ∧
    protectionFinalizer ∉ claim.finalizers ∧
    x.after.journal.deletedFinalizers.get? key = some claim.finalizers

/-- The caller learns of a removal that takes effect. -/
theorem Candid.acknowledged {fault : Error → Prop} {x : Occurrence} {key : String}
    (h : x.Candid fault) (removes : x.removes key = true) : x.Acknowledged := by
  intro c e hx
  obtain ⟨s, exchange, s'⟩ := x
  subst hx
  unfold Occurrence.removes Cluster.claim? at removes
  dsimp only at removes
  rw [h.error_objects] at removes
  cases hc : s.objects.claims.get? key <;> simp [hc] at removes

end Occurrence

/-! ## One call -/

/-- The others leave the bound claim under a key alone, and its removals are acknowledged and have
to be safe. -/
def releasing (key : String) : Contract where
  others s s' := s.LeavesBound key s'
  assumed x := x.removes key = true → x.Acknowledged
  owed x := x.removes key = true → x.RemovesSafely key

theorem releasing_watchful (key : String) : (releasing key).Watchful key where
  leaves _ _ h := h
  spares _ x _ spares removes := by
    unfold Occurrence.removes at removes
    rw [spares] at removes
    cases removes

namespace Releasing

variable {key : String}

/-- The proxy claim is stored as it was when it was bound, and its volume is to stay. -/
def retained (h : Holder) : Assertion (releasing key) where
  holds s := s.claim? key = some h.claim.val ∧ s.Retains h.volume
  stable _ _ act hs :=
    ⟨act.claim _ hs.1 h.claim.property, act.retains hs.1 h.claim.property h.named hs.2⟩

/-- If the holder goes by the key, the claim there may be deleted. -/
def stripped (h : Holder) : Assertion (releasing key) where
  holds s := h.key = key →
    s.Releasable key (h.claim.val.unprotected h.claim.val.finalizers) h.volume
  stable _ _ act hs same := act.releasable (hs same)

theorem protection_not_mem (c : Claim) (finalizers : List String) :
    protectionFinalizer ∉ (c.unprotected finalizers).finalizers := by
  have left_out : protectionFinalizer ∉ finalizers.filter (· ≠ protectionFinalizer) := by simp
  unfold Claim.unprotected Claim.finalizers
  dsimp only
  split
  · exact List.not_mem_nil
  · exact left_out

/-- A deletion leaves the claim under a key as it is, or removes it. -/
theorem kept_or_removed {s s' : Cluster} {space name : String} {answer : Except Error Unit}
    (serves : s.Serves ⟨.call (.deleteClaim space name), answer⟩ s') :
    s'.claim? key = s.claim? key ∨ keyIn space name = key ∧
      (Occurrence.mk s ⟨.call (.deleteClaim space name), answer⟩ s').removes key = true := by
  have step := serves.claimStep key
  generalize hr : (Exchange.mk (.call (.deleteClaim space name)) answer).request = r at step
  cases step with
  | kept same => exact .inl same
  | created | patched => cases hr
  | removed named present absent =>
      cases hr
      refine .inr ⟨named, ?_⟩
      unfold Occurrence.removes
      rw [present, absent]
      rfl

theorem answers_retain (h : Holder) :
    Answers (Assertion.any.holding (releasing_watchful key) h.claim)
      (.call (.patchVolume h.volume (Patch.reclaimPolicy retainPolicy))) fun answer =>
      Ends (fun _ => retained h) (fun _ => .any) answer := by
  intro s answer s' hs serves _
  refine ⟨(releasing_watchful key).spares s _ s' rfl, ?_⟩
  cases answer with
  | error e => trivial
  | ok new =>
      obtain ⟨old, found, result, rfl⟩ := Cluster.patchVolume_ok serves.call_eq
      rw [old.patched_reclaimPolicy] at result
      have stays : new.policy? = some retainPolicy := by
        rw [← Except.ok.inj result]
        rfl
      exact ⟨hs.2, new, Table.get?_insert_self _, stays⟩

theorem answers_strip (h : Holder) : Answers (retained h)
    (.call (.patchClaim h.space h.claim.val.anyName
      (Patch.stripProtection h.claim.val.finalizers))) fun answer =>
      Ends (fun _ => (stripped h : Assertion (releasing key))) (fun _ => .any) answer := by
  intro s answer s' hs serves _
  refine ⟨(releasing_watchful key).spares s _ s' rfl, ?_⟩
  cases answer with
  | error e => trivial
  | ok new =>
      intro same
      obtain ⟨old, found, result, rfl⟩ := Cluster.patchClaim_ok serves.call_eq
      obtain ⟨stored, volume, there, policy⟩ := hs
      -- the finalizers that the patch keeps are those of the claim as it is stored, since nobody
      -- has changed it after it was bound
      have old_eq : old = h.claim.val := by
        rw [show keyIn h.space h.claim.val.anyName = key from same] at found
        exact Option.some.inj (found.symm.trans stored)
      rw [old_eq, h.claim.val.patched_stripProtection] at result
      exact {
        stored := by
          rw [Except.ok.inj result, ← same]
          exact Table.get?_insert_self _
        bound := h.claim.property
        named := h.named
        retained := ⟨volume, there, policy⟩
        unprotected := protection_not_mem _ _ }

/-- A claim that may be deleted is removed safely, or is still there for the next attempt. -/
theorem answers_remove (h : Holder) : Answers (stripped h : Assertion (releasing key))
    (.call (.deleteClaim h.space h.claim.val.anyName)) fun answer =>
      Ends (fun _ => .any) (fun _ => .given True (stripped h))
        (Provision.tolerate Error.isNotFound answer) := by
  intro s answer s' hs serves acknowledged
  have volumes : s'.objects.volumes = s.objects.volumes := serves.volumes rfl
  constructor
  · intro removes
    have same : h.key = key := by
      rcases kept_or_removed serves with kept | ⟨named, -⟩
      · -- a claim that is kept is not removed
        unfold Occurrence.removes at removes
        dsimp only at removes
        rw [kept] at removes
        cases hc : s.claim? key <;> simp [hc] at removes
      · exact named
    obtain ⟨stored, -, named, ⟨volume, there, policy⟩, unprotected⟩ := hs same
    cases answer with
    | error e => exact absurd rfl (acknowledged removes _ e)
    | ok done =>
        obtain ⟨claim, found, -, finalizers⟩ := Cluster.deleteClaim_ok serves.call_eq
        rw [show keyIn h.space h.claim.val.anyName = key from same] at found finalizers
        rw [Option.some.inj (found.symm.trans stored)] at finalizers
        refine ⟨_, h.volume, volume, stored, named, ?_, policy, unprotected, ?_⟩
        · exact (congrArg (·.get? h.volume) volumes).trans there
        · exact (congrArg (·.get? key) finalizers).trans (Table.get?_insert_self _)
  · -- a deletion that fails has not removed the claim: the call would have heard of it
    refine ends_tolerate (fun _ _ => trivial) (fun _ _ _ => trivial) fun e failed _ => ?_
    subst failed
    refine ⟨trivial, fun same => ?_⟩
    obtain ⟨stored, bound, named, ⟨volume, there, policy⟩, unprotected⟩ := hs same
    have kept : s'.claim? key = s.claim? key := by
      rcases kept_or_removed serves with kept | ⟨-, removes⟩
      · exact kept
      · exact absurd rfl (acknowledged removes _ e)
    exact {
      stored := kept.trans stored
      bound, named, unprotected
      retained := ⟨volume, (congrArg (·.get? h.volume) volumes).trans there, policy⟩ }

/-- Requests that delete no claim owe nothing. -/
theorem answers_any {pre : Assertion (releasing key)} {r : Request}
    (spares : r.deletesClaim = false) {post : r.Answer → Assertion (releasing key)}
    (holds : ∀ answer s, post answer s) : Answers pre r post :=
  fun s answer s' _ _ _ =>
    ⟨(releasing_watchful key).spares s ⟨r, answer⟩ s' spares, holds answer s'⟩

theorem ends_any {α : Type} (result : Except Error α) (s : Cluster) :
    Ends (fun _ => (.any : Assertion (releasing key))) (fun _ => .any) result s := by
  cases result with
  | ok a => trivial
  | error e => trivial

/-- What is known in the course of a handover, as far as it matters to the proxy claim. -/
def outline {config : Config} {options : ProvisionOptions} {c : StorageClass} {node : Node}
    (named : options.proxyKey = key) : Outline (releasing key) config options c node where
  start := .any
  missing := .any
  created := .any
  placed := .any
  watching := Assertion.any.watching (releasing_watchful key)
  bound b _ := Assertion.any.holding (releasing_watchful key) b
  cleared := Assertion.any.holding (releasing_watchful key)
  retained := retained
  stripped h _ := stripped h
  removed _ := .any
  released _ := .any
  rebound _ := .any
  good _ := .any
  bad _ := .any
  pauses _ _ := (releasing_watchful key).spares _ _ _ rfl
  homeless _ _ _ _ := trivial
  look _ _ := answers_any rfl fun shown s => by cases shown <;> trivial
  create := answers_any rfl fun _ => ends_any _
  place _ := answers_any rfl fun _ => ends_any _
  place_nothing _ _ _ := trivial
  watch space hs :=
    answers_watchClaim _ ((Claim.keyIn_space hs _).trans named) (fun _ _ _ _ => trivial)
      fun _ _ _ => trivial
  await w := answers_awaitBound _ w _ _ (fun _ _ _ _ => trivial) fun _ _ _ => trivial
  clear _ b left := by
    intro s answer s' hs serves _
    have kept : s'.claim? key = some b.val := (serves.elsewhere nofun).trans hs.2
    refine ⟨(releasing_watchful key).spares s _ s' rfl, ends_tolerate ?_ ?_ ?_⟩
    · exact fun _ _ => ⟨trivial, kept⟩
    · exact fun _ _ _ => ⟨trivial, kept⟩
    · exact fun _ _ _ => ⟨trivial, trivial, kept⟩
  clear_in_vain _ _ _ _ _ _ := trivial
  clear_nothing _ _ _ h := h
  lacking _ _ _ _ _ := trivial
  retain := answers_retain
  strip := answers_strip
  remove h _ := answers_remove h
  remove_in_vain _ _ _ _ _ := trivial
  forget _ := answers_any rfl (ends_any)
  rebind _ _ _ := answers_any rfl (ends_any)
  settle _ _ := answers_any rfl (ends_any)
  settle_nothing _ _ _ _ := trivial

end Releasing

namespace Sample

end Sample

end VolumeHandover
