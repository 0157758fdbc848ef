import VolumeHandover.Proofs.Calls
import VolumeHandover.Proofs.Contracts

set_option autoImplicit false

/-! # Worlds in which nothing else happens

In a world without other clients and without failures, whose caches are up to date, everything is
answered by the cluster as it is (`Program.quiet_trail`). So look-ups made one after the other come
to what the objects in the cluster say (`Program.Agrees`), and that includes the selection of a
class.
-/

namespace VolumeHandover

/-! ## Faithful answers -/

/-- A call and a look-up are answered by the cluster as it is, and a watch that begins with a bound
claim delivers that. -/
def Occurrence.Faithful : Occurrence → Prop
  | ⟨s, ⟨.call c, answer⟩, s'⟩ => s.call c = (answer, s')
  | ⟨s, ⟨.find l, answer⟩, _⟩ => answer = s.find l
  | ⟨s, ⟨.awaitBound watch _, answer⟩, _⟩ => ∀ subscription (bound : BoundClaim),
      s.watch? watch = some subscription → subscription.initial = some bound.val →
        answer = .decided (.bound bound)
  | _ => True

/-- Nobody else acts in the world, no call is armed to fail, and the caches are up to date. -/
structure World.Quiet (w : World) : Prop where
  sound : w.Sound
  alone : w.agenda = []
  unarmed : w.failures = []
  shown : w.claimsHidden = false

namespace World

variable {w : World}

theorem call_unarmed (unarmed : w.failures = []) (c : ApiCall) :
    w.call c = ((w.cluster.call c).1, { w with cluster := (w.cluster.call c).2 }) := by
  unfold World.call
  rw [unarmed, armedError, ← unarmed]

theorem claimsHidden_call (w : World) (c : ApiCall) :
    (w.call c).2.claimsHidden = w.claimsHidden := by
  rcases w.call_cases c with ⟨e, failures, h⟩ | ⟨failures, h⟩
  · rw [h]
  · rw [h]

/-- A watch that begins with a bound claim decides at once. -/
theorem awaitBound_of_initial {watch : Watch} {subscription : Subscription} {bound : BoundClaim}
    (found : w.cluster.watch? watch = some subscription)
    (initial : subscription.initial = some bound.val) (timeout : Duration) :
    (w.awaitBound watch timeout).1 = .decided (.bound bound) := by
  have decides : decision? (.ok (.applied bound.val)) = some (.bound bound) :=
    dif_pos bound.property
  have first : firstDecision? (subscription.drain w.cluster.events).1 = some (.bound bound) := by
    unfold firstDecision? Subscription.drain
    rw [initial]
    cases subscription.next with
    | none => simp [decides]
    | some next => simp [decides]
  have decided := decided_eq found
  rw [first] at decided
  unfold awaitBound
  rw [decided]

/-- A quiet world answers faithfully. -/
theorem Quiet.faithful (quiet : w.Quiet) (r : Request) : (w.occurrence r).Faithful := by
  cases r with
  | call c =>
      have answered := (w.noted (.call c)).call_unarmed quiet.unarmed c
      show w.cluster.call c = (((w.noted (.call c)).call c).1,
        ((w.noted (.call c)).call c).2.cluster)
      rw [answered]
      rfl
  | find l =>
      show (w.noted (.find l)).find l = w.cluster.find l
      cases l with
      | claim space name =>
          unfold find
          dsimp only
          rw [show (w.noted (.find (.claim space name))).claimsHidden = false from quiet.shown]
          rfl
      | storageClass name | csiNode name | csiDriver name | node name => rfl
  | awaitBound watch timeout =>
      intro subscription bound found initial
      exact (w.noted (.awaitBound watch timeout)).awaitBound_of_initial found initial timeout
  | pause interval | clock | delegate options => exact trivial

/-- A quiet world stays quiet. -/
theorem Quiet.answer (quiet : w.Quiet) (r : Request) : (World.answer r w).2.Quiet := by
  obtain ⟨acting, steps⟩ := World.steps quiet.sound r
  have alone := steps.agenda
  rw [quiet.alone] at alone
  have unarmed : (World.answer r w).2.Armed fun _ => False :=
    (answer_candid (fun f hf => absurd (quiet.unarmed ▸ hf) List.not_mem_nil) r).2
  have asked (h : ∀ c, r ≠ .call c) : (World.answer r w).2.claimsHidden = false :=
    (congrArg Prod.snd (w.arranged_answer h)).trans quiet.shown
  refine ⟨steps.sound, (List.append_eq_nil_iff.mp alone.symm).2,
    List.eq_nil_iff_forall_not_mem.mpr unarmed, ?_⟩
  cases r with
  | call c => exact ((w.noted (.call c)).claimsHidden_call c).trans quiet.shown
  | find l | awaitBound watch timeout | pause interval | clock | delegate options =>
      exact asked fun _ => Request.noConfusion

end World

/-- **In a quiet world a program runs as on the cluster alone.** -/
theorem Program.quiet_trail {α : Type} {others : Cluster → Cluster → Prop} (p : Program α)
    {w : World} (quiet : w.Quiet) :
    History others w.cluster (p.trail w) (w.run p).2.cluster ∧
      (∀ x ∈ p.trail w, x.Faithful) ∧ (w.run p).2.Quiet := by
  have all := p.trail_all (fun w r (h : w.Quiet) => ⟨h.faithful r, h.answer r⟩) quiet
  exact ⟨(p.history_trail_alone quiet.sound quiet.alone).1, all⟩

/-! ## Look-ups -/

namespace Cluster

/-- The look-ups of what does not change in a cluster, which is all but the claims. -/
def catalog (s : Cluster) : Lister Id where
  storageClass name := s.find (.storageClass name)
  csiNode name := s.find (.csiNode name)
  csiDriver name := s.find (.csiDriver name)
  node name := s.find (.node name)
  claim _ _ := none

theorem catalog_call (s : Cluster) (c : ApiCall) : (s.call c).2.catalog = s.catalog := by
  have effect := s.call_effect c
  unfold catalog find
  generalize (s.call c).1 = answer, (s.call c).2.objects = after at effect ⊢
  cases effect <;> rfl

end Cluster

namespace Program

variable {α β : Type} {find : (l : Lookup) → Option l.Answer}

/-- A program comes to a result if its look-ups are answered as given. -/
def Agrees (p : Program α) (find : (l : Lookup) → Option l.Answer) (a : α) : Prop :=
  ∀ h b, p.Traces h (some b) →
    (∀ l (answer : Option l.Answer), ⟨.find l, answer⟩ ∈ h → answer = find l) → b = a

theorem agrees_done (a : α) : (done a).Agrees find a := by
  intro h b run _
  exact (traces_done_some_iff.mp run).2.symm

theorem agrees_find (l : Lookup) : (request (.find l)).Agrees find (find l) := by
  intro h b run answered
  obtain ⟨answer, h', rfl, rest⟩ := traces_ask_some_iff.mp run
  have same : b = answer := agrees_done answer h' b rest fun l a ha => answered l a (.tail _ ha)
  rw [same]
  exact answered l answer List.mem_cons_self

theorem Agrees.bind {p : Program α} {f : α → Program β} {a : Id α} {g : α → Id β}
    (first : p.Agrees find a) (rest : (f a).Agrees find (g a)) :
    (p >>= f).Agrees find (a >>= g) := by
  intro h b run answered
  obtain ⟨a', h₁, h₂, first_run, rest_run, rfl⟩ := traces_bind_some run
  obtain rfl := first h₁ a' first_run fun l answer hl =>
    answered l answer (List.mem_append_left _ hl)
  exact rest h₂ b rest_run fun l answer hl => answered l answer (List.mem_append_right _ hl)

end Program

namespace Selection

variable {s : Cluster} {csiNode : CsiNode} {node : Node}

theorem isUsable_agrees (c : StorageClass) :
    (isUsable Lister.asked csiNode node c).Agrees s.find (isUsable s.catalog csiNode node c) := by
  unfold isUsable
  by_cases allowed : allowsNode csiNode node c = true
  · rw [if_pos allowed, if_pos allowed]
    refine Program.Agrees.bind (Program.agrees_find _) ?_
    cases s.catalog.csiDriver c.provisioner with
    | none => exact Program.agrees_done true
    | some _ => exact Program.agrees_done (csiNode.hasDriver c.provisioner)
  · rw [if_neg allowed, if_neg allowed]
    exact Program.agrees_done false

theorem firstUsable_agrees (candidates : List String) :
    (firstUsable Lister.asked csiNode node candidates).Agrees s.find
      (firstUsable s.catalog csiNode node candidates) := by
  induction candidates with
  | nil => exact Program.agrees_done none
  | cons candidate rest ih =>
      unfold firstUsable
      refine Program.Agrees.bind (Program.agrees_find _) ?_
      cases s.catalog.storageClass candidate with
      | none => exact ih
      | some c =>
          refine Program.Agrees.bind (isUsable_agrees c) ?_
          cases isUsable s.catalog csiNode node c with
          | true => exact Program.agrees_done (some c)
          | false => exact ih

/-- With faithful answers a selection comes to what the objects in the cluster say. -/
theorem selectClass_agrees (candidates : List String) :
    (selectClass Lister.asked node candidates).Agrees s.find
      (selectClass s.catalog node candidates) := by
  unfold selectClass
  refine Program.Agrees.bind (Program.agrees_find _) ?_
  cases s.catalog.csiNode node.anyName with
  | none => exact Program.agrees_done (Except.error _)
  | some csiNode =>
      refine Program.Agrees.bind (firstUsable_agrees candidates) ?_
      cases firstUsable s.catalog csiNode node candidates with
      | none => exact Program.agrees_done (Except.error _)
      | some c => exact Program.agrees_done (Except.ok c)

end Selection

/-- Nobody else acts, and everything is answered faithfully. -/
def undisturbed : Contract where
  others _ _ := False
  assumed := Occurrence.Faithful

/-- A statement about the cluster, which nobody else can change. -/
def undisturbed.assert (holds : Cluster → Prop) : Assertion undisturbed :=
  ⟨holds, fun _ _ => False.elim⟩

/-- What look-ups come to at the beginning of a history is what they come to in the cluster in which
it begins. -/
theorem Program.Agrees.unique {α : Type} {p : Program α} {a b : α} {s s' : Cluster}
    {t : List Occurrence} {h₀ h₁ : List Exchange} (agrees : p.Agrees s.find a)
    (looks : p.OnlyLooksUp) (run : p.Traces h₀ (some b))
    (history : History undisturbed.others s t s') (faithful : ∀ x ∈ t, x.Faithful)
    (exchanges : t.map (·.exchange) = h₀ ++ h₁) : b = a := by
  refine agrees h₀ b run fun l answer hl => ?_
  obtain ⟨t₀, t₁, rfl, rfl, rfl⟩ := List.map_eq_append_iff.mp exchanges
  obtain ⟨x, hx, exchange⟩ := List.mem_map.mp hl
  obtain ⟨u, v, rfl⟩ := List.append_of_mem hx
  -- until this look-up the cluster stays as it is
  obtain ⟨s₁, first, -⟩ := history.split
  obtain ⟨s₂, earlier, rest⟩ := first.split
  have looked : ∀ y ∈ u, y.exchange.isLookup = true := fun y hy =>
    looks _ _ run _ (List.mem_map_of_mem (List.mem_append_left _ hy))
  have same : s₂ = s :=
    (earlier.lookups (k := undisturbed) looked fun _ _ _ => trivial).2
      (undisturbed.assert (· = s)) rfl
  have before : x.before = s := (undisturbed.assert (· = s)).after rest.uncons.1 same
  have answered := faithful x (by simp)
  obtain ⟨before_x, exchange_x, after⟩ := x
  cases exchange
  cases before
  exact answered

theorem Cluster.Serves.catalog {s s' : Cluster} {x : Exchange} (h : s.Serves x s') :
    s'.catalog = s.catalog := by
  cases h with
  | answered c | lost c e => exact s.catalog_call c
  | refused c e | found l answer | awaited read honest | paused interval | clock time
  | delegated options answer => rfl

/-- If nobody else acts, only claims, pods and volumes change. -/
theorem History.catalog {s s' : Cluster} {t : List Occurrence}
    (history : History undisturbed.others s t s') : s'.catalog = s.catalog :=
  (history.invariant (p := fun s' => s'.catalog = s.catalog) rfl (fun _ _ => False.elim)
    fun _ _ serves same => serves.catalog.trans same)

end VolumeHandover
