import VolumeHandover.Proofs.PatchedClaims
import VolumeHandover.Proofs.Resumption
import Mathlib.Data.List.Induction

set_option autoImplicit false

/-! # The class of an adopted proxy claim

The name of the proxy claim depends on the caller's claim only, and a call takes over a proxy
claim of that name without a look at its class. No patch changes the class of a claim
(`stores_step`), so what a call hands over is of the class with which the proxy claim was created
last (`Origin`), be it by this call or by an earlier one. The caller's claim is bound on behalf
of the class that the call itself has selected. The two are of one name if and only if the call
that created the proxy claim had selected a class of that name (`class_of_session`).
-/

namespace VolumeHandover

/-! ## Others who keep the class -/

/-- The claim under a key may change or go, but not become one of another class, and a watch
learns what is done to it. -/
structure Cluster.KeepsClass (key : String) (s s' : Cluster) : Prop where
  stored : ∀ claim, s'.claim? key = some claim →
    ∃ old, s.claim? key = some old ∧ claim.className? = old.className?
  reports : Cluster.Reports key s s'

/-- Whatever a client does does not change the class of a claim. -/
def ClientAction.KeepsClass : ClientAction → Prop
  | .patchClaim _ _ patch => ∀ j : Json, (j.merge patch).textAt? classPath = j.textAt? classPath
  | _ => True

variable {others : Cluster → Cluster → Prop} {key : String} {s s' : Cluster}
  {t t₁ t₂ : List Occurrence} {q : Option String → Prop} {selected : StorageClass → Prop}

/-- The claim under a key is of a class of which something is said, if there is one. -/
def Cluster.StoresClass (q : Option String → Prop) (key : String) (s : Cluster) : Prop :=
  s.Stores (fun claim => q claim.className?) key

theorem Cluster.KeepsClass.storesClass (h : s.KeepsClass key s') (stores : s.StoresClass q key) :
    s'.StoresClass q key := by
  intro claim hc
  obtain ⟨old, ho, same⟩ := h.stored claim hc
  show q claim.className?
  rw [same]
  exact stores old ho

/-- A request that creates no claim, and patches claims but for their class. -/
theorem keepsClass_of_claimStep {r : Request} (step : Cluster.ClaimStep key s r s')
    (creates : r.createsClaim = false)
    (patches : ∀ space name patch, r = .call (.patchClaim space name patch) →
      (ClientAction.patchClaim space name patch).KeepsClass)
    {claim : Claim} (hc : s'.claim? key = some claim) :
    ∃ old, s.claim? key = some old ∧ claim.className? = old.className? := by
  cases step with
  | kept same => exact ⟨claim, same ▸ hc, rfl⟩
  | created named absent present fresh => exact Bool.noConfusion creates
  | patched named before result after =>
      rw [← Option.some.inj (after.symm.trans hc)]
      exact ⟨_, before, className_patched (patches _ _ _ rfl) result⟩
  | removed named present absent =>
      rw [absent] at hc
      cases hc

/-- Binding or deleting a claim, and patching anything else in it, keeps its class. -/
theorem keepsClass_perform {action : ClientAction} (keeps : action.KeepsClass) :
    s.KeepsClass key (s.perform action) := by
  refine ⟨fun claim hc => ?_, s.perform_reports key action⟩
  cases action with
  | bindClaim space name =>
      change (s.bindClaim (keyIn space name)).claim? key = some claim at hc
      rcases s.bindClaim_cases (keyIn space name) with h | ⟨old, ho, claims, -, -⟩
      · rw [h] at hc
        exact ⟨claim, hc, rfl⟩
      · rw [claims] at hc
        by_cases hk : key = keyIn space name
        · rw [if_pos hk] at hc
          rw [← Option.some.inj hc]
          exact ⟨old, hk ▸ ho, className_boundClaim old⟩
        · rw [if_neg hk] at hc
          exact ⟨claim, hc, rfl⟩
  | deleteClaim space name =>
      have step := s.claimStep_call key (.deleteClaim space name)
      exact keepsClass_of_claimStep step rfl (fun _ _ _ he => by cases he) hc
  | patchClaim space name patch =>
      have step := s.claimStep_call key (.patchClaim space name patch)
      refine keepsClass_of_claimStep step rfl (fun _ _ _ he => ?_) hc
      cases he
      exact keeps

/-! ## Within one call -/

/-- What can be said of the class of a claim that was created a number of times, always of a
class that was selected. -/
def Renewed (n : Nat) (selected : StorageClass → Prop) (q : Option String → Prop)
    (name : Option String) : Prop :=
  if n = 0 then q name else ∃ c, selected c ∧ name = some c.anyName

theorem renewed_zero {name : Option String} : Renewed 0 selected q name ↔ q name := by
  rw [Renewed, if_pos rfl]

theorem renewed_add {n m : Nat} {name : Option String} :
    Renewed m selected (Renewed n selected q) name ↔ Renewed (n + m) selected q name := by
  unfold Renewed
  by_cases hm : m = 0
  · rw [if_pos hm, hm, Nat.add_zero]
  · rw [if_neg hm, if_neg (by omega)]

theorem className_proxyClaim (volumeName : String) (claim : Claim) (c : StorageClass)
    (node : Option String) : (proxyClaim volumeName claim c node).className? = some c.anyName :=
  rfl

theorem ClaimPatch.keepsClass {patch : Json} (known : ClaimPatch patch) (j : Json) :
    (j.merge patch).textAt? classPath = j.textAt? classPath := by
  cases known with
  | strip finalizers => exact textAt_stripProtection finalizers j
  | bind provisioner volume => exact textAt_bindClaim provisioner volume j

/-- A request of a call leaves the class alone, or creates a claim of the selected class. -/
theorem stores_step {options : ProvisionOptions} {x : Exchange}
    (asked : Obtains options selected x.request ∨ Hands x.request) (serves : s.Serves x s')
    (stores : s.StoresClass q key) :
    s'.StoresClass (Renewed (if (Occurrence.mk s x s').creates key then 1 else 0) selected q)
      key := by
  have step := serves.claimStep key
  intro claim hc
  unfold Occurrence.creates
  dsimp only
  generalize x.request = r at step asked
  cases step with
  | kept same =>
      have nothing : ((s.claim? key).isNone && (s'.claim? key).isSome) = false := by
        rw [same]
        cases s.claim? key <;> rfl
      rw [Bool.and_assoc, nothing, Bool.and_false, if_neg (by simp), renewed_zero]
      exact stores claim (same ▸ hc)
  | created named absent present fresh =>
      rcases asked with asked | asked
      · cases asked with
        | create hc' node =>
            rw [absent, present]
            refine ⟨_, hc', ?_⟩
            rw [← Option.some.inj (present.symm.trans hc)]
            rcases fresh with rfl | rfl
            · exact className_proxyClaim _ _ _ _
            · exact (className_boundClaim _).trans (className_proxyClaim _ _ _ _)
      · cases asked
  | patched named before result after =>
      rw [before, after, if_neg (by simp), renewed_zero,
        ← Option.some.inj (after.symm.trans hc)]
      rcases asked with asked | asked
      · cases asked
      · cases asked with
        | patchClaim _ _ known =>
            rw [className_patched known.keepsClass result]
            exact stores _ before
  | removed named present absent =>
      rw [absent] at hc
      cases hc

/-- The class of the claim under a key, after requests of one call. -/
theorem History.classes {options : ProvisionOptions} (h : History others s t s')
    (keeps : ∀ s s', others s s' → s.KeepsClass key s')
    (asked : ∀ x ∈ t.map (·.exchange), Obtains options selected x.request ∨ Hands x.request)
    (stores : s.StoresClass q key) :
    s'.StoresClass (Renewed (creations key t) selected q) key := by
  induction h generalizing q with
  | done s =>
      intro claim hc
      exact renewed_zero.mpr (stores claim hc)
  | acted act _ ih => exact ih asked ((keeps _ _ act).storesClass stores)
  | @served s s₁ s' x t serves _ ih =>
      have first := stores_step (asked x List.mem_cons_self) serves stores
      have rest := ih (fun y hy => asked y (.tail _ hy)) first
      intro claim hc
      have named := renewed_add.mp (rest claim hc)
      rw [creations, List.countP_cons, Nat.add_comm]
      exact named

theorem asked_of_run {config : Config} {options : ProvisionOptions} {h : List Exchange}
    {o : Option (Except Failure Volume)} (run : (provision config options).Traces h o) :
    ∀ x ∈ h, Obtains options (Selected options h) x.request ∨ Hands x.request := by
  obtain ⟨h₁, h₂, split, obtains, hands⟩ := stages_of_run run
  intro x hx
  rw [split] at hx
  rcases List.mem_append.mp hx with hx | hx
  · exact .inl (obtains x hx)
  · exact .inr (hands x hx)

/-- A call that succeeds hands over what was stored at its beginning, or what it has created
itself. -/
theorem HandsOver.renewed {call : Call} {c : StorageClass} {bound : BoundClaim}
    (hands : HandsOver call.config call.options call.exchanges c bound)
    (h : History others s call.occurrences s')
    (keeps : ∀ s s', others s s' → s.KeepsClass key s')
    (named : call.options.proxyKey = key) (stores : s.StoresClass q key) :
    Renewed (creations key call.occurrences) (Selected call.options call.exchanges) q
      bound.val.className? := by
  obtain ⟨t₁, t₂, t₃, s₁, s₂, ht, first, second, obtains, wait, handing⟩ :=
    hands.history h named
  -- what is delivered has the class that was stored when the watch began
  have made := first.classes keeps (fun x hx => .inl (obtains x hx)) stores
  have delivered := second.wait wait (fun s s' act => (keeps s s' act).reports)
    (fun s s' act => (keeps s s' act).storesClass) made
  have none₂ : creations key t₂ = 0 :=
    creations_eq_zero fun x hx =>
      wait.request (p := (·.createsClaim = false)) (fun _ => rfl) (fun _ _ => rfl)
        (fun _ _ => rfl) hx
  have none₃ : creations key t₃ = 0 :=
    creations_eq_zero fun x hx => (handing x hx).creates_nothing
  rw [ht, creations_append, creations_append, none₂, none₃]
  exact delivered

/-! ## Over any number of calls -/

/-- The call that has created the claim under a key last. -/
def creator? (key : String) (calls : List Call) : Option Call :=
  (calls.filter fun call => creations key call.occurrences ≠ 0).getLast?

/-- The class with which the claim under a key was created: the one that its creator has
selected, or the one that it had from the beginning. -/
def Origin (key : String) (s : Cluster) (calls : List Call) (name : Option String) : Prop :=
  match creator? key calls with
  | some call => ∃ c, Selected call.options call.exchanges c ∧ name = some c.anyName
  | none => ∃ claim, s.claim? key = some claim ∧ name = claim.className?

theorem Origin.unique {calls : List Call} {name name' : Option String}
    (h : Origin key s calls name) (h' : Origin key s calls name') : name = name' := by
  unfold Origin at h h'
  cases hc : creator? key calls with
  | some call =>
      rw [hc] at h h'
      obtain ⟨c, selected, rfl⟩ := h
      obtain ⟨c', selected', rfl⟩ := h'
      rw [selected.unique selected']
  | none =>
      rw [hc] at h h'
      obtain ⟨claim, found, rfl⟩ := h
      obtain ⟨claim', found', rfl⟩ := h'
      rw [Option.some.inj (found.symm.trans found')]

theorem origin_nil : s.StoresClass (Origin key s []) key :=
  fun claim hc => ⟨claim, hc, rfl⟩

theorem origin_concat {calls : List Call} {call : Call} {name : Option String}
    (h : Renewed (creations key call.occurrences) (Selected call.options call.exchanges)
      (Origin key s calls) name) :
    Origin key s (calls ++ [call]) name := by
  unfold Renewed at h
  unfold Origin creator?
  by_cases kept : creations key call.occurrences = 0
  · rw [if_pos kept] at h
    rw [List.filter_append, List.filter_cons_of_neg (by simpa using kept), List.filter_nil,
      List.append_nil]
    exact h
  · rw [if_neg kept] at h
    rw [List.filter_append, List.filter_cons_of_pos (by simpa using kept), List.filter_nil,
      List.getLast?_concat]
    exact h

/-- After any number of calls, a claim that is left is of the class with which it was created. -/
theorem Session.origin {calls : List Call} (session : Session others s calls s')
    (keeps : ∀ s s', others s s' → s.KeepsClass key s') :
    s'.StoresClass (Origin key s calls) key := by
  induction calls using List.reverseRecOn generalizing s' with
  | nil =>
      exact session.history.invariant origin_nil
        (fun s s' act stores => (keeps s s' act).storesClass stores) (by simp)
  | append_singleton calls call ih =>
      obtain ⟨s₁, before, history, run⟩ := session.split
      have renewed := history.classes keeps (asked_of_run run) (ih before)
      intro claim hc
      exact origin_concat (renewed claim hc)

/-- **What a call hands over is of the class with which the proxy claim was created**, if nobody
else changes that. The caller's claim is bound for the class that the call has selected, so that
the two are of one name just if the call that created the proxy claim had selected a class of
this name. -/
theorem class_of_session {earlier : List Call} {last : Call} {v : Volume}
    (session : Session others s (earlier ++ [last]) s')
    (keeps : ∀ s s', others s s' → s.KeepsClass key s')
    (ok : last.result = some (.ok v)) (named : last.options.proxyKey = key) :
    ∃ c bound, HandsOver last.config last.options last.exchanges c bound ∧
      Rebinds last.config last.options last.exchanges c ∧
      ∀ name, bound.val.className? = name ↔ Origin key s (earlier ++ [last]) name := by
  obtain ⟨s₁, before, history, run⟩ := session.split
  rw [ok] at run
  obtain ⟨c, bound, hands⟩ := handsOver_of_run run
  have renewed := hands.renewed history keeps named (before.origin keeps)
  have origin := origin_concat renewed
  refine ⟨c, bound, hands, hands.rebinds, fun name => ⟨?_, origin.unique⟩⟩
  rintro rfl
  exact origin

namespace Sample

/-- A world in which the backend takes a while, and the first attempt gets no watch. -/
def adoptable : World where
  cluster := { zones with switches := {} }
  agenda := [(1, .bindClaim "apps" "pvc-u")]
  failures := [{
    method := .watchClaim
    error := timedOut "watch" "PersistentVolumeClaim" "pvc-u" }]

/-- Two attempts to provision the claim, of which the second is to be on another node. -/
def moves : List Call :=
  adoptable.provisions [({}, options "near" "a"), ({}, options "far" "b")]

/-- The class and the reclaim policy of the volume that a call hands over. -/
def handed? (call : Call) : Option (Option String × Option String) :=
  match call.result with
  | some (.ok volume) => volume.spec.map fun spec => (spec.storageClassName, spec.reclaimPolicy)
  | _ => none

/-- On behalf of whom the claim is bound after a call. -/
def provisioner? (call : Call) : Option String := do
  let last ← call.occurrences.getLast?
  let claim ← last.after.claim? "apps/data"
  claim.annotated? storageProvisionerKey

theorem moves_session :
    ∃ s', Session (Cluster.Performs ClientAction.KeepsClass) adoptable.cluster moves s' := by
  refine World.session_provisions (w := adoptable) ⟨?_, List.pairwise_singleton ..⟩ ?_ _
  · exact fun _ h => absurd h List.not_mem_nil
  · intro e he
    rw [List.mem_singleton.mp he]
    exact trivial

end Sample

/-- The class `here` is of the driver `near.csi`, and its volumes are to go with their claims. The
second of the attempts hands over a volume of this class, but binds the claim on behalf of the
driver of the other class and leaves the volume a reclaim policy that only this one wants. -/
theorem sample_class_mistaken :
    (∃ s', Session (Cluster.Performs ClientAction.KeepsClass) Sample.adoptable.cluster
      Sample.moves s') ∧
    Sample.moves.map (fun call => call.result.map Except.isOk) = [some false, some true] ∧
    Sample.moves.map Sample.handed? = [none, some (some "here", some "Retain")] ∧
    Sample.moves.map Sample.provisioner? = [none, some "far.csi"] :=
  ⟨Sample.moves_session, by decide +kernel⟩

theorem sample_class_of_session :
    ∃ first last v, Sample.moves = [first] ++ [last] ∧ last.result = some (.ok v) ∧
      ∃ c bound, HandsOver last.config last.options last.exchanges c bound ∧
        Rebinds last.config last.options last.exchanges c ∧
        ∀ name, bound.val.className? = name ↔
          Origin "apps/pvc-u" Sample.adoptable.cluster Sample.moves name := by
  obtain ⟨s', session⟩ := Sample.moves_session
  obtain ⟨first, last, v, calls, ok, named⟩ := exists_last_ok
    (show Sample.moves.map _ = _ by decide +kernel)
    (show ∀ call ∈ Sample.moves, call.options.proxyKey = "apps/pvc-u" by decide +kernel)
  rw [calls] at session ⊢
  refine ⟨first, last, v, rfl, ok, class_of_session session (fun s s' act => ?_) ok named⟩
  obtain ⟨action, keeps, rfl⟩ := act
  exact keepsClass_perform keeps

end VolumeHandover
