import VolumeHandover.Proofs.Waiting

set_option autoImplicit false

/-! # The volume behind a claim

A backend makes a volume for a claim when it binds the claim (`BackendBinds`). Which volume this is
can be told before as well as after (`Source`), so that it does not matter when the backend acts.
The steps in which a claim is created and bound keep the source, and they keep the objects filed
under their own names (`Tidy`).
-/

namespace VolumeHandover

/-! ## The backend -/

namespace Cluster

/-- The backend binds the claim under a key, which is not bound yet. -/
def BackendBinds (key : String) (s s' : Cluster) : Prop :=
  ∃ claim, s.claim? key = some claim ∧ claim.isBound = false ∧ s' = s.bindClaim key

variable {key : String} {s s' s₀ : Cluster} {fresh : Claim}

/-- What binding a claim does to the objects. -/
theorem bindClaim_objects {claim : Claim} (stored : s.claim? key = some claim) :
    (s.bindClaim key).objects =
      { s.objects with
        claims := s.objects.claims.insert key (boundClaim claim)
        volumes := s.objects.volumes.insert ("pv-" ++ claim.anyName) (boundVolume claim) } := by
  unfold bindClaim backendBind
  rw [show s.objects.claims.get? key = some claim from stored]
  rfl

/-- The backend leaves a claim alone that is bound. -/
theorem BackendBinds.unbound (act : s.BackendBinds key s') {claim : Claim}
    (stored : s.claim? key = some claim) : claim.isBound = false := by
  obtain ⟨claim', stored', unbound, -⟩ := act
  rwa [Option.some.inj (stored.symm.trans stored')]

theorem BackendBinds.leavesBound (act : s.BackendBinds key s') : s.LeavesBound key s' := by
  have never {claim : Claim} (stored : s.claim? key = some claim) (bound : claim.isBound = true) :
      False := Bool.false_ne_true ((act.unbound stored).symm.trans bound)
  obtain ⟨claim, stored, unbound, rfl⟩ := act
  exact {
    reports := s.bindClaim_reports key key
    claim := fun _ stored bound => (never stored bound).elim
    volume := fun _ _ stored bound _ => (never stored bound).elim }

theorem BackendBinds.claims (act : s.BackendBinds key s') {k : String} (other : k ≠ key) :
    s'.claim? k = s.claim? k := by
  obtain ⟨claim, stored, -, rfl⟩ := act
  rw [claim?, bindClaim_objects stored]
  exact Table.get?_insert_of_ne _ other

/-! ## Objects that go by their own names -/

/-- The volumes, and the claim under a key, are filed under their own names. -/
structure Tidy (s : Cluster) (key : String) : Prop where
  volumes : ∀ name volume, s.volume? name = some volume → volume.anyName = name
  claim : ∀ claim, s.claim? key = some claim → claim.key = key

/-- The volume, with its name, that the backend has made for the claim under a key, or is going to
make for it; and for a fresh claim if there is none. -/
inductive Source (s : Cluster) (key : String) (fresh : Claim) : String → Volume → Prop
  | bound {claim : Claim} {name : String} {volume : Volume} (stored : s.claim? key = some claim)
      (bound : claim.isBound = true) (named : claim.volumeName? = some name)
      (found : s.volume? name = some volume) : Source s key fresh name volume
  | unbound {claim : Claim} (stored : s.claim? key = some claim)
      (unbound : claim.isBound = false) :
      Source s key fresh ("pv-" ++ claim.anyName) (boundVolume claim)
  | absent (absent : s.claim? key = none) :
      Source s key fresh ("pv-" ++ fresh.anyName) (boundVolume fresh)

theorem volumeName_boundClaim (claim : Claim) :
    (boundClaim claim).volumeName? = some ("pv-" ++ claim.anyName) := by
  unfold Claim.volumeName? boundClaim
  rw [Option.bind_some, Option.filter_some, if_pos]
  simp

/-- Bound to the volume that was made for it, a claim has the same source as before. -/
theorem source_of_bound {claim : Claim} {name : String} {volume : Volume}
    (stored : s'.claim? key = some (boundClaim claim))
    (made : s'.volume? ("pv-" ++ claim.anyName) = some (boundVolume claim))
    (source : s'.Source key fresh name volume) :
    name = "pv-" ++ claim.anyName ∧ volume = boundVolume claim := by
  cases source with
  | bound stored' bound named found =>
      rw [← Option.some.inj (stored.symm.trans stored'), volumeName_boundClaim] at named
      rw [← Option.some.inj named, made] at found
      exact ⟨(Option.some.inj named).symm, (Option.some.inj found).symm⟩
  | unbound stored' unbound =>
      rw [← Option.some.inj (stored.symm.trans stored')] at unbound
      cases unbound
  | absent absent =>
      rw [stored] at absent
      cases absent

theorem Tidy.of_same (tidy : s.Tidy key) (claim : s'.claim? key = s.claim? key)
    (volumes : s'.objects.volumes = s.objects.volumes) : s'.Tidy key where
  volumes name volume found :=
    tidy.volumes name volume ((congrArg (·.get? name) volumes).symm.trans found)
  claim c stored := tidy.claim c (claim.symm.trans stored)

theorem Source.of_same {name : String} {volume : Volume} (claim : s'.claim? key = s.claim? key)
    (volumes : s'.objects.volumes = s.objects.volumes) (source : s'.Source key fresh name volume) :
    s.Source key fresh name volume := by
  cases source with
  | bound stored bound named found =>
      exact .bound (claim.symm.trans stored) bound named
        ((congrArg (·.get? name) volumes).symm.trans found)
  | unbound stored unbound => exact .unbound (claim.symm.trans stored) unbound
  | absent absent => exact .absent (claim.symm.trans absent)

theorem named_insert {volumes : Table Volume} {name : String} {new : Volume}
    (filed : new.anyName = name)
    (named : ∀ name volume, volumes.get? name = some volume → volume.anyName = name) :
    ∀ n volume, (volumes.insert name new).get? n = some volume → volume.anyName = n := by
  intro n volume found
  by_cases hn : n = name
  · rw [hn, Table.get?_insert_self] at found
    rw [← Option.some.inj found, hn, filed]
  · rw [Table.get?_insert_of_ne _ hn] at found
    exact named n volume found

theorem Tidy.withVolume (tidy : s.Tidy key) {name : String} {new : Volume}
    (filed : new.anyName = name) (entry : JournalEntry) :
    ((s.record entry).withVolumes (s.objects.volumes.insert name new)).Tidy key :=
  ⟨named_insert filed tidy.volumes, tidy.claim⟩

/-- When a claim gets bound, everything stays tidy, and so does the source. -/
theorem bound_step {claim : Claim} (fresh : Claim) (tidy : s.Tidy key) (named : claim.key = key)
    (stored : s'.claim? key = some (boundClaim claim))
    (volumes : s'.objects.volumes =
      s.objects.volumes.insert ("pv-" ++ claim.anyName) (boundVolume claim)) :
    s'.Tidy key ∧ ∀ name volume, s'.Source key fresh name volume →
      name = "pv-" ++ claim.anyName ∧ volume = boundVolume claim := by
  have lookup (name : String) : s'.volume? name =
      (s.objects.volumes.insert ("pv-" ++ claim.anyName) (boundVolume claim)).get? name :=
    congrArg (·.get? name) volumes
  have made : s'.volume? ("pv-" ++ claim.anyName) = some (boundVolume claim) :=
    (lookup _).trans (Table.get?_insert_self _)
  refine ⟨⟨fun name volume found => ?_, fun c hc => ?_⟩, fun _ _ => source_of_bound stored made⟩
  · rw [lookup] at found
    have filed : (boundVolume claim).anyName = "pv-" ++ claim.anyName := rfl
    exact named_insert filed tidy.volumes name volume found
  · rw [← Option.some.inj (stored.symm.trans hc)]
    exact named

theorem BackendBinds.step (act : s.BackendBinds key s') (fresh : Claim) (tidy : s.Tidy key) :
    s'.Tidy key ∧ ∀ name volume, s'.Source key fresh name volume →
      s.Source key fresh name volume := by
  obtain ⟨claim, stored, unbound, rfl⟩ := act
  have objects := bindClaim_objects stored
  have claims : (s.bindClaim key).claim? key = some (boundClaim claim) := by
    rw [claim?, objects]
    exact Table.get?_insert_self _
  obtain ⟨tidy', source⟩ :=
    bound_step fresh tidy (tidy.claim claim stored) claims (by rw [objects])
  refine ⟨tidy', fun name volume h => ?_⟩
  obtain ⟨rfl, rfl⟩ := source name volume h
  exact .unbound stored unbound

/-- What the creation of a fresh claim, which may be bound at once, does to the source. -/
theorem createClaim_step {answer : Except Error Claim}
    (call : s.call (.createClaim fresh) = (answer, s')) (tidy : s.Tidy key)
    (named : fresh.key = key) (unbound : fresh.isBound = false) :
    s'.Tidy key ∧ ∀ name volume, s'.Source key fresh name volume →
      s.Source key fresh name volume := by
  have effect := effect_of_call call
  -- the cases can be told apart only if the objects are a variable
  generalize objects : s'.objects = after at effect
  cases effect with
  | failed e =>
      have claim := claim_of_objects objects key
      have volumes : s'.objects.volumes = s.objects.volumes := congrArg (·.volumes) objects
      exact ⟨tidy.of_same claim volumes, fun name volume h => h.of_same claim volumes⟩
  | claimCreated absent =>
      have stored : s'.claim? key = some fresh := by
        rw [claim?, objects, named]
        exact Table.get?_insert_self _
      have volumes : s'.objects.volumes = s.objects.volumes := congrArg (·.volumes) objects
      refine ⟨⟨fun name volume found => ?_, fun c hc => ?_⟩, fun name volume source => ?_⟩
      · exact tidy.volumes name volume ((congrArg (·.get? name) volumes).symm.trans found)
      · rw [← Option.some.inj (stored.symm.trans hc)]
        exact named
      · -- the volume to be made for the claim is the one to be made if there were none
        cases source with
        | bound stored' bound =>
            rw [← Option.some.inj (stored.symm.trans stored'), unbound] at bound
            cases bound
        | unbound stored' =>
            rw [← Option.some.inj (stored.symm.trans stored')]
            exact .absent (named ▸ absent)
        | absent absent' => cases stored.symm.trans absent'
  | claimBound absent =>
      have stored : s'.claim? key = some (boundClaim fresh) := by
        rw [claim?, objects, named]
        exact Table.get?_insert_self _
      have volumes := congrArg (·.volumes) objects
      obtain ⟨tidy', source⟩ := bound_step fresh tidy named stored volumes
      refine ⟨tidy', fun name volume h => ?_⟩
      obtain ⟨rfl, rfl⟩ := source name volume h
      exact .absent (named ▸ absent)

end Cluster

end VolumeHandover
