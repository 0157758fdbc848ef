import VolumeHandover.Proofs.Stages
import VolumeHandover.Proofs.Worlds

set_option autoImplicit false

/-! # How often the proxy claim is created

A further attempt goes on from what the attempt before it left behind, but only as long as the
proxy claim is there: after an attempt that deletes it and fails later on, the next one creates
it again, and the backend another volume. Creations and removals of the claim under a key keep a
balance (`History.balance`), and within one call no removal comes before a creation. So over
any number of calls, of which the last succeeds, the claim is created once, and once more for
each earlier call that removed it (`creations_of_session`).
-/

namespace VolumeHandover

/-! ## Creations and removals -/

/-- The number of claims under a key, which is one or zero. -/
def Cluster.present (s : Cluster) (key : String) : Nat :=
  if (s.claim? key).isSome then 1 else 0

namespace Request

/-- Whether a request is to create a claim. -/
def createsClaim : Request → Bool
  | .call (.createClaim _) => true
  | _ => false

/-- Whether a request is to delete a claim. -/
def deletesClaim : Request → Bool
  | .call (.deleteClaim _ _) => true
  | _ => false

end Request

namespace Occurrence

/-- A request to create a claim takes effect under a key. -/
def creates (key : String) (x : Occurrence) : Bool :=
  x.exchange.request.createsClaim && (x.before.claim? key).isNone &&
    (x.after.claim? key).isSome

/-- A request to delete a claim takes effect under a key. -/
def removes (key : String) (x : Occurrence) : Bool :=
  x.exchange.request.deletesClaim && (x.before.claim? key).isSome &&
    (x.after.claim? key).isNone

end Occurrence

/-- How often the claim under a key is created. -/
def creations (key : String) (t : List Occurrence) : Nat := t.countP (·.creates key)

/-- How often the claim under a key is removed. -/
def removals (key : String) (t : List Occurrence) : Nat := t.countP (·.removes key)

variable {others : Cluster → Cluster → Prop} {key : String} {s s' : Cluster}
  {t t₁ t₂ : List Occurrence}

theorem creations_append : creations key (t₁ ++ t₂) = creations key t₁ + creations key t₂ :=
  List.countP_append

theorem creations_eq_zero (h : ∀ x ∈ t.map (·.exchange), x.request.createsClaim = false) :
    creations key t = 0 := by
  refine List.countP_eq_zero.mpr fun x hx => ?_
  rw [Occurrence.creates, h _ (List.mem_map_of_mem hx)]
  simp

theorem removals_eq_zero (h : ∀ x ∈ t.map (·.exchange), x.request.deletesClaim = false) :
    removals key t = 0 := by
  refine List.countP_eq_zero.mpr fun x hx => ?_
  rw [Occurrence.removes, h _ (List.mem_map_of_mem hx)]
  simp

theorem present_le (s : Cluster) (key : String) : s.present key ≤ 1 := by
  unfold Cluster.present
  split <;> omega

theorem stores_false_iff : s.Stores (fun _ => False) key ↔ s.present key = 0 := by
  unfold Cluster.Stores Cluster.present
  cases s.claim? key <;> simp

/-- One request changes the number of claims under a key by being a creation or a removal. -/
theorem balance_step {x : Exchange} (serves : s.Serves x s') (key : String) :
    (if (Occurrence.mk s x s').creates key then 1 else 0) + s.present key =
      (if (Occurrence.mk s x s').removes key then 1 else 0) + s'.present key := by
  have step := serves.claimStep key
  unfold Occurrence.creates Occurrence.removes Cluster.present
  dsimp only
  generalize x.request = r at step
  cases step with
  | kept same =>
      rw [same]
      cases s.claim? key <;> simp
  | created named absent present fresh =>
      rw [absent, present]
      simp [Request.createsClaim]
  | patched named before result after =>
      rw [before, after]
      simp [Request.createsClaim]
  | removed named present absent =>
      rw [present, absent]
      simp [Request.deletesClaim, Request.createsClaim]

/-- What was there and what is created is what is removed and what is left, apart from what
the others create. -/
theorem History.balance (h : History others s t s')
    (spared : ∀ s s', others s s' → s.present key ≤ s'.present key) :
    ∃ n, creations key t + s.present key + n = removals key t + s'.present key ∧
      ((∀ s s', others s s' → s'.present key ≤ s.present key) → n = 0) := by
  induction h with
  | done s => exact ⟨0, rfl, fun _ => rfl⟩
  | @acted s s₁ s' t act rest ih =>
      obtain ⟨n, balance, none⟩ := ih
      have le := spared s s₁ act
      refine ⟨n + (s₁.present key - s.present key), by omega, fun alone => ?_⟩
      have ge := alone s s₁ act
      have hn := none alone
      omega
  | @served s s₁ s' x t serves rest ih =>
      obtain ⟨n, balance, none⟩ := ih
      have step := balance_step serves key
      refine ⟨n, ?_, none⟩
      unfold creations removals at *
      rw [List.countP_cons, List.countP_cons]
      omega

/-! ## Within one call -/

theorem Obtains.deletes_nothing {options : ProvisionOptions} {selected : StorageClass → Prop}
    {r : Request} (h : Obtains options selected r) : r.deletesClaim = false := by
  cases h <;> rfl

theorem Hands.creates_nothing {r : Request} (h : Hands r) : r.createsClaim = false := by
  cases h <;> rfl

variable {call : Call}

/-- Whatever a call removes, it creates nothing afterwards. -/
theorem creations_of_call
    (run : (provision call.config call.options).Traces call.exchanges call.result)
    (h : History others s call.occurrences s')
    (spared : ∀ s s', others s s' → s.present key ≤ s'.present key) :
    creations key call.occurrences + s.present key ≤ 1 := by
  obtain ⟨h₁, h₂, split, obtains, hands⟩ := stages_of_run run
  obtain ⟨t₁, t₂, ht, rfl, rfl⟩ := List.map_eq_append_iff.mp split
  rw [ht] at h
  obtain ⟨s₁, first, -⟩ := h.split
  obtain ⟨n, balance, -⟩ := first.balance spared
  -- nothing is removed up to the wait, and nothing created after it
  have kept : removals key t₁ = 0 := removals_eq_zero fun x hx => (obtains x hx).deletes_nothing
  have none : creations key t₂ = 0 := creations_eq_zero fun x hx => (hands x hx).creates_nothing
  have le := present_le s₁ key
  rw [ht, creations_append]
  omega

/-- A call that succeeds has had a proxy claim: it was there, or the call has created it. -/
theorem creations_of_ok {v : Volume}
    (run : (provision call.config call.options).Traces call.exchanges (some (.ok v)))
    (h : History others s call.occurrences s')
    (alone : ∀ s s', others s s' → s'.present key = s.present key)
    (reports : ∀ s s', others s s' → Cluster.Reports key s s')
    (named : call.options.proxyKey = key) :
    creations key call.occurrences + s.present key = 1 := by
  obtain ⟨c, bound, hands⟩ := handsOver_of_run run
  obtain ⟨t₁, t₂, t₃, s₁, s₂, ht, first, second, obtains, wait, handing⟩ :=
    hands.history h named
  have spared (s s' : Cluster) (act : others s s') : s.present key ≤ s'.present key :=
    Nat.le_of_eq (alone s s' act).symm
  obtain ⟨n₁, balance₁, alone₁⟩ := first.balance spared
  obtain ⟨n₂, balance₂, alone₂⟩ := second.balance spared
  have hn₁ := alone₁ fun s s' act => Nat.le_of_eq (alone s s' act)
  have hn₂ := alone₂ fun s s' act => Nat.le_of_eq (alone s s' act)
  have kept₁ : removals key t₁ = 0 := removals_eq_zero fun x hx => (obtains x hx).deletes_nothing
  have kept₂ : removals key t₂ = 0 :=
    removals_eq_zero fun x hx =>
      wait.request (p := (·.deletesClaim = false)) (fun _ => rfl) (fun _ _ => rfl)
        (fun _ _ => rfl) hx
  have none₃ : creations key t₃ = 0 :=
    creations_eq_zero fun x hx => (handing x hx).creates_nothing
  -- a watch that begins without a claim, and to which nobody adds one, delivers none
  have there : s₁.present key ≠ 0 := by
    intro absent
    have keeps (s s' : Cluster) (act : others s s') (h : s.Stores (fun _ => False) key) :
        s'.Stores (fun _ => False) key := by
      rw [stores_false_iff] at *
      rw [alone s s' act, h]
    exact second.wait wait reports keeps (stores_false_iff.mpr absent)
  have le := present_le s₂ key
  rw [ht, creations_append, creations_append]
  omega

/-! ## Over any number of calls -/

/-- **The proxy claim is created at most once more than earlier calls have removed it**, if
nobody else removes it. If nobody else creates it either and the last call succeeds, it is
created exactly as often: once just if no earlier call has removed it. -/
theorem creations_of_session {earlier : List Call} {last : Call}
    (session : Session others s (earlier ++ [last]) s')
    (spared : ∀ s s', others s s' → s.present key ≤ s'.present key) :
    creations key ((earlier ++ [last]).flatMap (·.occurrences)) ≤
      1 + removals key (earlier.flatMap (·.occurrences)) ∧
    ∀ v, last.result = some (.ok v) → last.options.proxyKey = key → s.claim? key = none →
      (∀ s s', others s s' → s'.present key ≤ s.present key ∧ Cluster.Reports key s s') →
      creations key ((earlier ++ [last]).flatMap (·.occurrences)) =
        1 + removals key (earlier.flatMap (·.occurrences)) := by
  obtain ⟨s₁, before, second, run⟩ := session.split
  obtain ⟨n, balance, alone⟩ := before.history.balance spared
  rw [List.flatMap_append, List.flatMap_singleton, creations_append]
  constructor
  · have le := creations_of_call run second spared
    omega
  · intro v ok named absent lone
    rw [ok] at run
    have hn := alone fun s s' act => (lone s s' act).1
    have one := creations_of_ok run second
      (fun s s' act => Nat.le_antisymm (lone s s' act).1 (spared s s' act))
      (fun s s' act => (lone s s' act).2) named
    have zero : s.present key = 0 := by
      rw [Cluster.present, absent]
      rfl
    omega

/-- The client does not delete claims. -/
def ClientAction.SparesClaims : ClientAction → Prop
  | .deleteClaim _ _ => False
  | _ => True

/-- A client who does not delete claims does not create any either. -/
theorem present_perform {action : ClientAction} (spares : action.SparesClaims) :
    (s.perform action).present key = s.present key := by
  unfold Cluster.present
  cases action with
  | bindClaim space name =>
      show (if ((s.bindClaim (keyIn space name)).claim? key).isSome then 1 else 0) = _
      rcases s.bindClaim_cases (keyIn space name) with h | ⟨claim, present, claims, -, -⟩
      · rw [h]
      · rw [claims]
        by_cases hk : key = keyIn space name
        · rw [if_pos hk, hk, present]
          rfl
        · rw [if_neg hk]
  | deleteClaim space name => exact spares.elim
  | patchClaim space name patch =>
      have step := s.claimStep_call key (.patchClaim space name patch)
      show (if ((s.patchClaim space name patch).2.claim? key).isSome then 1 else 0) = _
      cases step with
      | kept same => rw [show (s.patchClaim space name patch).2.claim? key = _ from same]
      | patched named before result after =>
          rw [show (s.patchClaim space name patch).2.claim? key = _ from after, before]
          rfl

namespace Sample

/-- A world in which a volume does not get to forget its proxy claim at the first attempt. The
backend takes a while to bind a claim. -/
def forgetful : World where
  cluster := { zones with switches := {} }
  agenda := [(1, .bindClaim "apps" "pvc-u"), (2, .bindClaim "apps" "pvc-u")]
  failures := [{
    method := .patchVolume
    skip := 1
    error := timedOut "patch" "PersistentVolume" "pv-pvc-u" }]

/-- Two attempts to provision the claim. -/
def attempts : List Call :=
  forgetful.provisions [({}, options "near" "a"), ({}, options "near" "a")]

theorem attempts_session :
    ∃ s', Session (Cluster.Performs ClientAction.SparesClaims) forgetful.cluster attempts s' := by
  refine World.session_provisions (w := forgetful) ⟨?_, by simp [forgetful]⟩ ?_ _
  · exact fun _ h => absurd h List.not_mem_nil
  · intro e he
    simp only [forgetful, List.mem_cons, List.not_mem_nil, or_false] at he
    rcases he with rfl | rfl <;> exact trivial

end Sample

/-- The first of the attempts fails, but has removed the proxy claim; the second succeeds, and
has created it once more. -/
theorem sample_created_twice :
    (∃ s', Session (Cluster.Performs ClientAction.SparesClaims) Sample.forgetful.cluster
      Sample.attempts s') ∧
    Sample.attempts.map (fun call => call.result.map Except.isOk) = [some false, some true] ∧
    creations "apps/pvc-u" (Sample.attempts.flatMap (·.occurrences)) = 2 :=
  ⟨Sample.attempts_session, by decide +kernel⟩

/-- The last of two calls that were made for one claim, of which only this one succeeds. -/
theorem exists_last_ok {calls : List Call}
    (results : calls.map (fun call => call.result.map Except.isOk) = [some false, some true])
    (keys : ∀ call ∈ calls, call.options.proxyKey = key) :
    ∃ first last v, calls = [first] ++ [last] ∧ last.result = some (.ok v) ∧
      last.options.proxyKey = key := by
  obtain ⟨first, rest, rfl, -, results⟩ := List.map_eq_cons_iff.mp results
  obtain ⟨last, rest, rfl, ok, results⟩ := List.map_eq_cons_iff.mp results
  obtain rfl := List.map_eq_nil_iff.mp results
  obtain ⟨result, hv, isOk⟩ := Option.map_eq_some_iff.mp ok
  cases result with
  | error f => cases isOk
  | ok v => exact ⟨first, last, v, rfl, hv, keys last (by simp)⟩

theorem sample_creations_of_session :
    ∃ first last v, Sample.attempts = [first] ++ [last] ∧ last.result = some (.ok v) ∧
      creations "apps/pvc-u" (Sample.attempts.flatMap (·.occurrences)) =
        1 + removals "apps/pvc-u" ([first].flatMap (·.occurrences)) := by
  obtain ⟨s', session⟩ := Sample.attempts_session
  obtain ⟨first, last, v, calls, ok, named⟩ := exists_last_ok
    (show Sample.attempts.map _ = _ by decide +kernel)
    (show ∀ call ∈ Sample.attempts, call.options.proxyKey = "apps/pvc-u" by decide +kernel)
  have same (s s' : Cluster) (act : Cluster.Performs ClientAction.SparesClaims s s') :
      s'.present "apps/pvc-u" = s.present "apps/pvc-u" ∧ Cluster.Reports "apps/pvc-u" s s' := by
    obtain ⟨action, spares, rfl⟩ := act
    exact ⟨present_perform spares, s.perform_reports _ action⟩
  rw [calls] at session ⊢
  have counts := creations_of_session session fun s s' act => Nat.le_of_eq (same s s' act).1.symm
  exact ⟨first, last, v, rfl, ok, counts.2 v ok named (by decide +kernel)
    fun s s' act => ⟨Nat.le_of_eq (same s s' act).1, (same s s' act).2⟩⟩

end VolumeHandover
