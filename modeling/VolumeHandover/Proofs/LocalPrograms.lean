import VolumeHandover.Proofs.Locality

set_option autoImplicit false

/-! # Programs that keep to a part of a cluster

A program is `Local` to a scope if it comes to the same in worlds that agree on the scope, and
changes nothing else. This is a judgement about a program between two assertions, with a rule for
each way in which programs are built. It is about worlds without other clients, where a wait for a
claim is over at once or takes its full time (`Cluster.settled`).

Programs that are local to scopes without anything in common may change places (`Local.commute`).
-/

namespace VolumeHandover

/-! ## Worlds without other clients -/

namespace World

variable {w : World}

theorem run_bind {α β : Type} (w : World) (p : Program α) (f : α → Program β) :
    w.run (p >>= f) = (w.run p).2.run (f (w.run p).1) := by
  induction p generalizing w with
  | done a => rfl
  | ask r next ih => exact ih (World.answer r w).1 (World.answer r w).2

theorem run_ask {α : Type} (w : World) (r : Request) (next : r.Answer → Program α) :
    w.run (.ask r next) = (answer r w).2.run (next (answer r w).1) := rfl

/-- Where nobody else acts, waiting just takes time. -/
theorem waitUntil_alone (alone : w.agenda = []) (time : Nat) :
    w.waitUntil time = { w with now := max w.now time } := by
  unfold waitUntil
  by_cases later : w.now < time
  · rw [if_pos later]
    unfold actUntil
    rw [alone, Nat.max_eq_right (Nat.le_of_lt later)]
    rfl
  · rw [if_neg later, Nat.max_eq_left (Nat.not_lt.mp later)]

end World

/-! ## Waiting for a claim -/

/-- Watch a claim until it is decided whether it gets bound. -/
def Program.watchOut (space name : String) (timeout : Duration) :
    Program (Except Error Awaited) :=
  .ask (.call (.watchClaim space name)) fun
    | .error e => .done (.error e)
    | .ok watch => .ask (.awaitBound watch timeout) fun awaited => .done (.ok awaited)

/-- How a wait for a claim ends if nobody else acts. -/
def Cluster.settled (s : Cluster) (key : String) : Awaited :=
  match (s.claim? key).bind fun claim => decision? (.ok (.applied claim)) with
  | some decision => .decided decision
  | none => if s.switches.closeWatches then .closed else .timedOut

/-- How long that takes, in milliseconds. -/
def Awaited.ticks (timeout : Duration) : Awaited → Nat
  | .timedOut => timeout.ticks
  | _ => 0

namespace Cluster

variable {s : Cluster}

/-- If a wait ends with a bound claim, that is the claim in the cluster. -/
theorem claim_of_settled {key : String} {bound : BoundClaim}
    (h : s.settled key = .decided (.bound bound)) : s.claim? key = some bound.val := by
  unfold settled at h
  cases stored : s.claim? key with
  | none =>
      rw [stored] at h
      dsimp only [Option.bind] at h
      split at h <;> cases h
  | some claim =>
      rw [stored] at h
      by_cases phase : claim.isBound = true
      · rw [Option.bind_some, decision?, dif_pos phase] at h
        cases h
        rfl
      · rw [Option.bind_some, decision?, dif_neg phase] at h
        dsimp only at h
        split at h <;> cases h

/-- A watch has nothing to deliver at its beginning but the state of its claim. -/
theorem drain_watchClaim (s : Cluster) (space name : String) :
    ∃ subscription, (s.watchClaim space name).2.watch? (s.watchClaim space name).1 =
        some subscription ∧
      (subscription.drain (s.watchClaim space name).2.events).1 =
        (s.claim? (keyIn space name)).toList.map .applied ∧
      (subscription.drain (s.watchClaim space name).2.events).2.next.isNone =
        s.switches.closeWatches := by
  refine ⟨_, List.getElem?_concat_length .., ?_⟩
  unfold watchClaim Subscription.drain
  cases s.switches.closeWatches with
  | true => exact ⟨rfl, rfl⟩
  | false =>
      have reached : Subscription.position s.events.length s.events.length = s.events.length :=
        Nat.max_eq_left (Nat.sub_le ..)
      simp only [Bool.false_eq_true, if_false, reached, List.drop_length]
      exact ⟨List.append_nil _, rfl⟩

theorem firstDecision_initial (claim : Option Claim) :
    firstDecision? (claim.toList.map .applied) =
      claim.bind fun claim => decision? (.ok (.applied claim)) := by
  cases claim with
  | none => rfl
  | some claim => simp only [firstDecision?, Option.toList_some, List.map_cons, List.map_nil,
      List.findSome?_singleton, Option.bind_some]

end Cluster

namespace World

variable {w : World}

/-- If nobody else acts, a watch decides at once, or it has ended, or the time passes. -/
theorem awaitBound_alone (alone : w.agenda = []) {watch : Watch} {subscription : Subscription}
    (found : w.cluster.watch? watch = some subscription) (timeout : Duration)
    {awaited : Awaited}
    (settles : awaited = match firstDecision? (subscription.drain w.cluster.events).1 with
      | some decision => .decided decision
      | none => if (subscription.drain w.cluster.events).2.next.isNone then .closed
          else .timedOut) :
    ∃ watches, w.awaitBound watch timeout = (awaited, { w with
      cluster := { w.cluster with watches }
      now := w.now + awaited.ticks timeout }) := by
  refine ⟨w.cluster.watches.set watch.number (subscription.drain w.cluster.events).2, ?_⟩
  have read := decided_eq found
  subst settles
  cases first : firstDecision? (subscription.drain w.cluster.events).1 with
  | some decision =>
      rw [first] at read
      unfold awaitBound
      rw [read]
      rfl
  | none =>
      rw [first] at read
      cases ended : (subscription.drain w.cluster.events).2.next.isNone with
      | true =>
          rw [ended] at read
          unfold awaitBound
          rw [read]
          rfl
      | false =>
          rw [ended] at read
          have idle : (w.afterReading watch subscription).agenda = [] := alone
          have kept : (w.afterReading watch subscription).cluster.watch? watch =
              some (subscription.drain w.cluster.events).2 := by
            have inside := (List.getElem?_eq_some_iff.mp found).1
            exact (List.getElem?_set_self inside)
          -- the agenda is empty, so no step can come that decides the watch before the time is over
          rcases awaitBound_of_undecided read kept timeout with waited | ⟨decision, due, coming, -⟩
          · rw [waited, waitUntil_alone idle, Nat.max_eq_right (Nat.le_add_right ..)]
            rfl
          · rw [idle] at coming
            cases coming

/-- A wait for a claim where nobody else acts. -/
theorem run_watchOut (alone : w.agenda = []) (space name : String) (timeout : Duration) :
    ∃ watches requests, w.run (.watchOut space name timeout) =
      match armedError .watchClaim w.failures with
      | (some e, failures) => (.error e, { w with failures, requests })
      | (none, failures) =>
          let awaited := w.cluster.settled (keyIn space name)
          (.ok awaited, { w with
            failures, requests
            cluster := { w.cluster with watches }
            now := w.now + awaited.ticks timeout }) := by
  have called : World.answer (.call (.watchClaim space name)) w =
      (w.noted (.call (.watchClaim space name))).call (.watchClaim space name) := rfl
  unfold World.call at called
  rw [show (w.noted (.call (.watchClaim space name))).failures = w.failures from rfl] at called
  unfold Program.watchOut
  rw [run_ask, called]
  cases armed : armedError .watchClaim w.failures with
  | mk error failures =>
      rw [show armedError (ApiCall.watchClaim space name).method w.failures = _ from armed]
      cases error with
      | some e => exact ⟨[], _, rfl⟩
      | none =>
          obtain ⟨subscription, found, delivers, ends⟩ := w.cluster.drain_watchClaim space name
          have settles : w.cluster.settled (keyIn space name) =
              match firstDecision?
                (subscription.drain (w.cluster.watchClaim space name).2.events).1 with
              | some decision => .decided decision
              | none => if (subscription.drain
                  (w.cluster.watchClaim space name).2.events).2.next.isNone then .closed
                else .timedOut := by
            rw [delivers, ends, Cluster.firstDecision_initial]
            rfl
          let watching : World := { w.noted (.call (.watchClaim space name)) with
            failures, cluster := (w.cluster.watchClaim space name).2 }
          let watch := (w.cluster.watchClaim space name).1
          have waiting : (watching.noted (.awaitBound watch timeout)).agenda = [] := alone
          obtain ⟨watches, waited⟩ := awaitBound_alone waiting found timeout settles
          refine ⟨watches, (watching.noted (.awaitBound watch timeout)).requests, ?_⟩
          show (watching.run (.ask (.awaitBound watch timeout) _) :
            Except Error Awaited × World) = _
          rw [run_ask, show World.answer (.awaitBound watch timeout) watching = _ from waited]
          rfl

end World

/-! ## Calls in a world -/

namespace World

variable {w : World}

theorem armedError_nil (method : ApiMethod) : armedError method [] = (none, []) := rfl

/-- A call fails as it is armed to, or the cluster answers it. -/
theorem run_call (w : World) (c : ApiCall) : ∃ requests, w.run (.call c) =
    match armedError c.method w.failures with
    | (some e, failures) => (.error e, { w with failures, requests })
    | (none, failures) => ((w.cluster.call c).1, { w with
        failures, requests, cluster := (w.cluster.call c).2 }) := by
  have called : w.run (.call c) = (w.noted (.call c)).call c := rfl
  unfold World.call at called
  rw [show (w.noted (.call c)).failures = w.failures from rfl] at called
  rw [called]
  cases armedError c.method w.failures with
  | mk error failures =>
      cases error with
      | some e => exact ⟨_, rfl⟩
      | none => exact ⟨_, rfl⟩

end World

/-! ## The judgement -/

/-- What a look-up is about lies in a scope. -/
def Lookup.Within (scope : Scope) : Lookup → Prop
  | .claim space name => scope.claims (keyIn space name)
  | _ => True

namespace World

variable {scope : Scope} {α : Type}

/-- Two worlds without other clients agree on a scope, and treat calls and look-ups alike. -/
structure Alike (scope : Scope) (w w' : World) : Prop where
  alone : w.agenda = []
  alone' : w'.agenda = []
  cluster : w.cluster.AgreesOn scope w'.cluster
  failures : w'.failures = w.failures
  claimsHidden : w'.claimsHidden = w.claimsHidden

/-- Nothing changes outside of a scope, and no failure gets armed. -/
structure ChangesOnly (scope : Scope) (w w' : World) : Prop where
  cluster : w.cluster.ChangesOnly scope w'.cluster
  unarmed : w.failures = [] → w'.failures = []
  claimsHidden : w'.claimsHidden = w.claimsHidden

theorem Alike.refl {w : World} (alone : w.agenda = []) : w.Alike scope w :=
  ⟨alone, alone, .refl _, rfl, rfl⟩

theorem ChangesOnly.trans {w w' w'' : World} (first : w.ChangesOnly scope w')
    (second : w'.ChangesOnly scope w'') : w.ChangesOnly scope w'' :=
  ⟨first.cluster.trans second.cluster, second.unarmed ∘ first.unarmed,
    second.claimsHidden.trans first.claimsHidden⟩

/-- Run in two worlds, a program comes to the same in the same time, and leaves them alike. -/
structure RunAlike (scope : Scope) (p : Program α) (post : α → Cluster → Prop) (w w' : World) :
    Prop where
  post : post (w.run p).1 (w.run p).2.cluster
  result : (w'.run p).1 = (w.run p).1
  alike : (w.run p).2.Alike scope (w'.run p).2
  changes : w'.ChangesOnly scope (w'.run p).2
  elapsed : ∃ time, (w.run p).2.now = w.now + time ∧ (w'.run p).2.now = w'.now + time

/-- Of two runs it has to be known what they come to, and in which clusters. -/
theorem RunAlike.of_runs {p : Program α} {post : α → Cluster → Prop} {w w' : World}
    (alike : w.Alike scope w') {a : α} {failures : List ArmedFailure}
    {requests requests' : List (Nat × Request)} {s s' : Cluster} {t : Nat}
    (run : w.run p = (a, { w with failures, requests, cluster := s, now := w.now + t }))
    (run' : w'.run p = (a, { w' with
      failures, requests := requests', cluster := s', now := w'.now + t }))
    (unarmed : w'.failures = [] → failures = []) (holds : post a s)
    (agrees : s.AgreesOn scope s') (changes : w'.cluster.ChangesOnly scope s') :
    RunAlike scope p post w w' := by
  constructor
  · rw [run]
    exact holds
  · rw [run, run']
  · rw [run, run']
    exact ⟨alike.alone, alike.alone', agrees, rfl, alike.claimsHidden⟩
  · rw [run']
    exact ⟨changes, unarmed, rfl⟩
  · exact ⟨t, by rw [run], by rw [run']⟩

end World

/-- A program that is run where `pre` holds depends on nothing outside of a scope and changes
nothing there, and `post` holds of what it comes to. -/
def Local {α : Type} (scope : Scope) (pre : Cluster → Prop) (p : Program α)
    (post : α → Cluster → Prop) : Prop :=
  ∀ ⦃w w' : World⦄, w.Alike scope w' → pre w.cluster → World.RunAlike scope p post w w'

namespace Local

variable {α β : Type} {scope : Scope} {pre : Cluster → Prop} {post : α → Cluster → Prop}

theorem done {a : α} (h : ∀ s, pre s → post a s) : Local scope pre (.done a) post :=
  fun _ _ alike hw => ⟨h _ hw, rfl, alike, ⟨.refl _, id, rfl⟩, 0, rfl, rfl⟩

theorem bind {mid : α → Cluster → Prop} {p : Program α} {f : α → Program β}
    {post : β → Cluster → Prop} (first : Local scope pre p mid)
    (rest : ∀ a, Local scope (mid a) (f a) post) : Local scope pre (p >>= f) post := by
  intro w w' alike hw
  have one := first alike hw
  have two := rest _ one.alike one.post
  obtain ⟨t₁, now₁, now₁'⟩ := one.elapsed
  obtain ⟨t₂, now₂, now₂'⟩ := two.elapsed
  have run : w.run (p >>= f) = (w.run p).2.run (f (w.run p).1) := w.run_bind p f
  have run' : w'.run (p >>= f) = (w'.run p).2.run (f (w.run p).1) := by
    rw [w'.run_bind, one.result]
  constructor
  · rw [run]
    exact two.post
  · rw [run, run']
    exact two.result
  · rw [run, run']
    exact two.alike
  · rw [run']
    exact one.changes.trans two.changes
  · refine ⟨t₁ + t₂, ?_, ?_⟩
    · rw [run, now₂, now₁, Nat.add_assoc]
    · rw [run', now₂', now₁', Nat.add_assoc]

theorem ask {r : Request} {next : r.Answer → Program α} {mid : r.Answer → Cluster → Prop}
    (first : Local scope pre (.request r) mid) (rest : ∀ a, Local scope (mid a) (next a) post) :
    Local scope pre (.ask r next) post := first.bind rest

theorem weaken {pre' : Cluster → Prop} {post' : α → Cluster → Prop} {p : Program α}
    (h : Local scope pre p post) (before : ∀ s, pre' s → pre s)
    (after : ∀ a s, post a s → post' a s) : Local scope pre' p post' :=
  fun _ _ alike hw =>
    let run := h alike (before _ hw)
    ⟨after _ _ run.post, run.result, run.alike, run.changes, run.elapsed⟩

/-- What holds whatever the cluster is like may be assumed. -/
theorem given {fact : Prop} {p : Program α} (h : fact → Local scope pre p post) :
    Local scope (fun s => fact ∧ pre s) p post :=
  fun _ _ alike hw => h hw.1 alike hw.2

/-! ### Requests -/

theorem find {l : Lookup} (within : l.Within scope) :
    Local scope pre (.request (.find l)) fun _ => pre := by
  intro w w' alike hw
  have fixed := alike.cluster.objects.fixed
  have same : w'.find l = w.find l := by
    cases l with
    | claim space name =>
        have claims : w'.cluster.find (.claim space name) = w.cluster.find (.claim space name) :=
          alike.cluster.objects.claims _ within
        unfold World.find
        dsimp only
        rw [alike.claimsHidden, claims]
    | storageClass name => exact congrArg (·.storageClasses.get? name) fixed
    | csiNode name => exact congrArg (·.csiNodes.get? name) fixed
    | csiDriver name => exact congrArg (·.csiDrivers.get? name) fixed
    | node name => exact congrArg (·.nodes.get? name) fixed
  have run : w.run (.request (.find l)) = (w.find l, w.noted (.find l)) := rfl
  -- the failures of `w` are written for those of `w'`, which are the same, as `of_runs` has it
  have run' : w'.run (.request (.find l)) =
      (w.find l, { w'.noted (.find l) with failures := w.failures }) := by
    rw [← same, ← alike.failures]
    rfl
  exact .of_runs alike (t := 0) run run' (fun empty => alike.failures.symm.trans empty) hw
    alike.cluster (.refl _)

/-- A look-up of something else than a claim shows what is there. -/
theorem lookup {l : Lookup} (other : ∀ space name, l ≠ .claim space name) :
    Local scope pre (.request (.find l)) fun shown s => shown = s.find l ∧ pre s := by
  have within : l.Within scope := by
    cases l with
    | claim space name => exact absurd rfl (other space name)
    | storageClass | csiNode | csiDriver | node => exact trivial
  intro w w' alike hw
  have run := find within alike hw
  refine ⟨⟨?_, hw⟩, run.result, run.alike, run.changes, run.elapsed⟩
  show w.find l = w.cluster.find l
  cases l with
  | claim space name => exact absurd rfl (other space name)
  | storageClass | csiNode | csiDriver | node => rfl

/-- What a decision looks up it goes on with. -/
theorem decide_lookup {ε : Type} {l : Lookup} {f : Option l.Answer → ExceptT ε Program β}
    {post : Except ε β → Cluster → Prop} (other : ∀ space name, l ≠ .claim space name)
    (rest : ∀ shown, Local scope (fun s => shown = s.find l ∧ pre s) (f shown).run post) :
    Local scope pre ((liftM (Program.request (.find l)) : ExceptT ε Program _) >>= f).run post :=
  ask (lookup other) rest

theorem pause (interval : Duration) :
    Local scope pre (.request (.pause interval)) fun _ => pre := by
  intro w w' alike hw
  have passes (w : World) (alone : w.agenda = []) :
      w.run (.request (.pause interval)) =
        ((), { w.noted (.pause interval) with now := w.now + interval.pauseTicks }) := by
    have idle : (w.noted (.pause interval)).agenda = [] := alone
    have later : max w.now (w.now + interval.pauseTicks) = w.now + interval.pauseTicks :=
      Nat.max_eq_right (Nat.le_add_right ..)
    show ((), (w.noted (.pause interval)).waitUntil (w.now + interval.pauseTicks)) = _
    rw [World.waitUntil_alone idle, show (w.noted (.pause interval)).now = w.now from rfl, later]
  have run' := passes w' alike.alone'
  have failing : w'.noted (.pause interval) =
      { w'.noted (.pause interval) with failures := w.failures } := by
    rw [← alike.failures]
    rfl
  rw [failing] at run'
  exact .of_runs alike (passes w alike.alone) run' (fun empty => alike.failures.symm.trans empty) hw
    alike.cluster (.refl _)

/-- A call that begins no watch. -/
theorem call {c : ApiCall} {post : Except Error c.Answer → Cluster → Prop}
    (within : ∀ s, pre s → c.Within scope s) (other : ∀ space name, c ≠ .watchClaim space name)
    (answered : ∀ s, pre s → post (s.call c).1 (s.call c).2)
    (failed : ∀ s e, pre s → post (.error e) s) : Local scope pre (.call c) post := by
  intro w w' alike hw
  obtain ⟨requests, run⟩ := w.run_call c
  obtain ⟨requests', run'⟩ := w'.run_call c
  have unarmed (empty : w'.failures = []) : (armedError c.method w.failures).2 = [] := by
    rw [← alike.failures, empty, World.armedError_nil]
  rw [alike.failures] at run'
  cases armed : armedError c.method w.failures with
  | mk error failures =>
      rw [armed] at run run' unarmed
      cases error with
      | some e =>
          exact .of_runs alike (t := 0) run run' unarmed (failed _ e hw) alike.cluster (.refl _)
      | none =>
          obtain ⟨same, after⟩ := Cluster.call_agrees alike.cluster (within _ hw) other
          rw [same] at run'
          exact .of_runs alike (t := 0) run run' unarmed (answered _ hw) after
            (Cluster.call_changesOnly (alike.cluster.within (within _ hw)))

/-- Watching a claim, which goes on with how that ends. -/
theorem watchOut {space name : String} {timeout : Duration}
    {post : Except Error Awaited → Cluster → Prop} (within : scope.claims (keyIn space name))
    (answered : ∀ s watches, pre s →
      post (.ok (s.settled (keyIn space name))) { s with watches })
    (failed : ∀ s e, pre s → post (.error e) s) :
    Local scope pre (.watchOut space name timeout) post := by
  intro w w' alike hw
  obtain ⟨watches, requests, run⟩ := World.run_watchOut alike.alone space name timeout
  obtain ⟨watches', requests', run'⟩ := World.run_watchOut alike.alone' space name timeout
  have unarmed (empty : w'.failures = []) : (armedError .watchClaim w.failures).2 = [] := by
    rw [← alike.failures, empty, World.armedError_nil]
  have settled : w'.cluster.settled (keyIn space name) = w.cluster.settled (keyIn space name) := by
    unfold Cluster.settled
    rw [show w'.cluster.claim? (keyIn space name) = _ from
      alike.cluster.objects.claims _ within, alike.cluster.switches]
    rfl
  rw [alike.failures, settled] at run'
  cases armed : armedError .watchClaim w.failures with
  | mk error failures =>
      rw [armed] at run run' unarmed
      cases error with
      | some e =>
          exact .of_runs alike (t := 0) run run' unarmed (failed _ e hw) alike.cluster (.refl _)
      | none =>
          exact .of_runs alike run run' unarmed (answered _ _ hw)
            ⟨alike.cluster.objects, alike.cluster.switches⟩ ⟨.refl _, .refl _⟩

/-- How long a program takes is the same in both worlds, whatever the clock shows. -/
theorem timed {mid : α → Cluster → Prop} {p : Program α} {f : α → Duration → Program β}
    {post : β → Cluster → Prop} (first : Local scope pre p mid)
    (rest : ∀ a duration, Local scope (mid a) (f a duration) post) :
    Local scope pre (.ask .clock fun started => p >>= fun a => .ask .clock fun ended =>
      f a (.ofMillis (ended - started))) post := by
  intro w w' alike hw
  have noted {w w' : World} (alike : w.Alike scope w') :
      (w.noted .clock).Alike scope (w'.noted .clock) :=
    ⟨alike.alone, alike.alone', alike.cluster, alike.failures, alike.claimsHidden⟩
  have one := first (noted alike) hw
  obtain ⟨time, now, now'⟩ := one.elapsed
  have two := rest _ (.ofMillis time) (noted one.alike) one.post
  obtain ⟨time₂, now₂, now₂'⟩ := two.elapsed
  -- the clocks of the two worlds may differ, but `p` takes the same time in both, so that the
  -- rest goes on with one duration
  have lasts (w : World) (now : ((w.noted .clock).run p).2.now = (w.noted .clock).now + time) :
      w.run (.ask .clock fun started => p >>= fun a => .ask .clock fun ended =>
        f a (.ofMillis (ended - started))) =
        (((w.noted .clock).run p).2.noted .clock).run
          (f ((w.noted .clock).run p).1 (.ofMillis time)) := by
    have duration : ((w.noted .clock).run p).2.now - w.now = time := by
      rw [now]
      exact Nat.add_sub_cancel_left ..
    show (w.noted .clock).run (p >>= fun a => .ask .clock fun ended =>
      f a (.ofMillis (ended - w.now))) = _
    rw [World.run_bind]
    show (((w.noted .clock).run p).2.noted .clock).run
      (f ((w.noted .clock).run p).1 (.ofMillis (((w.noted .clock).run p).2.now - w.now))) = _
    rw [duration]
  have run := lasts w now
  have run' := lasts w' now'
  rw [one.result] at run'
  constructor
  · rw [run]
    exact two.post
  · rw [run, run']
    exact two.result
  · rw [run, run']
    exact two.alike
  · rw [run']
    have silent : w'.ChangesOnly scope (w'.noted .clock) := ⟨.refl _, id, rfl⟩
    have silent' : ((w'.noted .clock).run p).2.ChangesOnly scope
        (((w'.noted .clock).run p).2.noted .clock) := ⟨.refl _, id, rfl⟩
    exact silent.trans (one.changes.trans (silent'.trans two.changes))
  · refine ⟨time + time₂, ?_, ?_⟩
    · rw [run, now₂]
      show ((w.noted .clock).run p).2.now + time₂ = _
      rw [now]
      exact Nat.add_assoc ..
    · rw [run', now₂']
      show ((w'.noted .clock).run p).2.now + time₂ = _
      rw [now']
      exact Nat.add_assoc ..

/-! ### Attempts -/

/-- If an attempt succeeds, `good` holds of what it comes to. -/
def Achieves {α : Type} (good : α → Cluster → Prop) : Except Error α → Cluster → Prop
  | .ok a => good a
  | .error _ => fun _ => True

theorem attempt {x : Attempt α} {f : α → Attempt β} {mid : α → Cluster → Prop}
    {good : β → Cluster → Prop} (first : Local scope pre x.run (Achieves mid))
    (rest : ∀ a, Local scope (mid a) (f a).run (Achieves good)) :
    Local scope pre (x >>= f).run (Achieves good) := by
  rw [ExceptT.run_bind]
  refine first.bind fun result => ?_
  cases result with
  | ok a => exact rest a
  | error e => exact done fun _ _ => trivial

theorem succeed {a : α} {good : α → Cluster → Prop} (h : ∀ s, pre s → good a s) :
    Local scope pre (pure a : Attempt α).run (Achieves good) := done h

theorem fail {e : Error} {good : α → Cluster → Prop} :
    Local scope pre (throw e : Attempt α).run (Achieves good) := done fun _ _ => trivial

/-- What an attempt leaves alone it leaves alone if it succeeds. -/
theorem achieves {x : Attempt α} (h : Local scope pre x.run fun _ => pre) :
    Local scope pre x.run (Achieves fun _ => pre) :=
  h.weaken (fun _ hs => hs) fun result _ hs => match result with
    | .ok _ => hs
    | .error _ => trivial

/-- A call with errors that are as good as a success. -/
theorem tolerated {c : ApiCall} {reached : Error → Bool} (within : ∀ s, pre s → c.Within scope s)
    (other : ∀ space name, c ≠ .watchClaim space name) (kept : ∀ s, pre s → pre (s.call c).2) :
    Local scope pre (.ask (.call c) fun answer => .done (Provision.tolerate reached answer))
      fun _ => pre := by
  have answered : Local scope pre (.call c) fun _ => pre := call within other kept fun _ _ h => h
  exact answered.bind fun _ => done fun _ h => h

/-- A call that is made again while it fails. -/
theorem retry {config : Config} {operation : String} {c : ApiCall}
    (within : ∀ s, pre s → c.Within scope s) (other : ∀ space name, c ≠ .watchClaim space name)
    (kept : ∀ s, pre s → pre (s.call c).2) :
    Local scope pre (Provision.deleteWithRetry config operation c).run fun _ => pre := by
  -- induction on the attempts that are left, before each of which `pre` holds again
  have further (left n : Nat) : Local scope pre
      (config.cleanupRetry.runFrom (fun d => Program.request (.pause d)) operation
        (fun _ => Program.ask (.call c) fun answer =>
          .done (Provision.tolerate Error.isNotFound answer)) left n) fun _ => pre := by
    induction left generalizing n with
    | zero =>
        unfold RetryPolicy.runFrom
        refine (tolerated within other kept).bind fun result => ?_
        cases result with
        | ok value => exact done fun _ h => h
        | error e => exact done fun _ h => h
    | succ left ih =>
        unfold RetryPolicy.runFrom
        refine (tolerated within other kept).bind fun result => ?_
        cases result with
        | ok value => exact done fun _ h => h
        | error e => exact (pause _).bind fun _ => ih (n + 1)
  exact further (config.cleanupRetry.attempts - 1) 1

end Local

/-! ## Programs that change places -/

/-- Two scopes have nothing in common. -/
structure Scope.Apart (a b : Scope) : Prop where
  claims : ∀ key, a.claims key → ¬ b.claims key
  pods : ∀ key, a.pods key → ¬ b.pods key
  volumes : ∀ name, a.volumes name → ¬ b.volumes name

theorem Scope.Apart.symm {a b : Scope} (apart : a.Apart b) : b.Apart a where
  claims key hb ha := apart.claims key ha hb
  pods key hb ha := apart.pods key ha hb
  volumes name hb ha := apart.volumes name ha hb

/-- Nobody else acts in the world, and nothing in it is going to fail. -/
structure World.Reliable (w : World) : Prop where
  alone : w.agenda = []
  unarmed : w.failures = []
  pods : w.cluster.switches.podDeleteFailures = 0
  claims : w.cluster.switches.claimDeleteFailures = 0

namespace World

variable {a b : Scope} {w w' : World}

theorem Reliable.switches (reliable : w.Reliable) (changes : w.ChangesOnly b w') :
    w'.cluster.switches = w.cluster.switches :=
  changes.cluster.switches.eq reliable.pods reliable.claims

/-- What changes elsewhere does not matter. -/
theorem Reliable.alike (reliable : w.Reliable) (changes : w.ChangesOnly b w')
    (alone : w'.agenda = []) (apart : a.Apart b) : w.Alike a w' where
  alone := reliable.alone
  alone' := alone
  cluster := {
    objects := {
      fixed := changes.cluster.objects.fixed
      claims := fun key ha => changes.cluster.objects.claims key (apart.claims key ha)
      pods := fun key ha => changes.cluster.objects.pods key (apart.pods key ha)
      volumes := fun name ha => changes.cluster.objects.volumes name (apart.volumes name ha) }
    switches := reliable.switches changes }
  failures := (changes.unarmed reliable.unarmed).trans reliable.unarmed.symm
  claimsHidden := changes.claimsHidden

end World

/-- Changes of different entries may be made in either order. -/
theorem Table.changes_commute {α : Type} {a b : String → Prop} {t p q pq qp : Table α}
    (apart : ∀ key, a key → ¬ b key)
    (first : ∀ key, ¬ a key → p.get? key = t.get? key)
    (second : ∀ key, ¬ b key → pq.get? key = p.get? key)
    (first' : ∀ key, ¬ b key → q.get? key = t.get? key)
    (second' : ∀ key, ¬ a key → qp.get? key = q.get? key)
    (agrees : ∀ key, a key → qp.get? key = p.get? key)
    (agrees' : ∀ key, b key → pq.get? key = q.get? key) : pq = qp := by
  refine Table.ext_get? fun key => ?_
  -- an entry that is changed is changed by one of the two only, the same way in either order
  by_cases ha : a key
  · rw [second key (apart key ha), agrees key ha]
  by_cases hb : b key
  · rw [agrees' key hb, second' key ha]
  · rw [second key hb, first key ha, second' key ha, first' key hb]

theorem Objects.ext_fixed {o o' : Objects} (fixed : o.fixed = o'.fixed)
    (claims : o.claims = o'.claims) (pods : o.pods = o'.pods) (volumes : o.volumes = o'.volumes) :
    o = o' := by
  cases o
  cases o'
  cases fixed
  cases claims
  cases pods
  cases volumes
  rfl

section Commute

variable {α β : Type} {a b : Scope} {preA preB : Cluster → Prop} {p : Program α} {q : Program β}
  {postA : α → Cluster → Prop} {postB : β → Cluster → Prop} {w : World}

/-- After a program that is local to another scope a program comes to what it comes to without,
and makes the same of its scope. -/
theorem Local.after (hp : Local a preA p postA) (hq : Local b preB q postB) (apart : a.Apart b)
    (reliable : w.Reliable) (ha : preA w.cluster) (hb : preB w.cluster) :
    World.RunAlike b q postB w (w.run p).2 := by
  have alone := hp (.refl reliable.alone) ha
  exact hq (reliable.alike alone.changes alone.alike.alone apart.symm) hb

/-- **Programs that are local to scopes without anything in common may change places**: each comes
to the same, and together they make the same of the objects. -/
theorem Local.commute (hp : Local a preA p postA) (hq : Local b preB q postB) (apart : a.Apart b)
    (reliable : w.Reliable) (ha : preA w.cluster) (hb : preB w.cluster) :
    ((w.run p).2.run q).1 = (w.run q).1 ∧ ((w.run q).2.run p).1 = (w.run p).1 ∧
      ((w.run p).2.run q).2.cluster.objects = ((w.run q).2.run p).2.cluster.objects := by
  have p_first := (hp (.refl reliable.alone) ha).changes.cluster.objects
  have q_first := (hq (.refl reliable.alone) hb).changes.cluster.objects
  have q_after := hp.after hq apart reliable ha hb
  have p_after := hq.after hp apart.symm reliable hb ha
  have q_second := q_after.changes.cluster.objects
  have p_second := p_after.changes.cluster.objects
  have q_same := q_after.alike.cluster.objects
  have p_same := p_after.alike.cluster.objects
  refine ⟨q_after.result, p_after.result, ?_⟩
  apply Objects.ext_fixed
  · rw [q_second.fixed, p_first.fixed, p_second.fixed, q_first.fixed]
  · exact Table.changes_commute apart.claims p_first.claims q_second.claims q_first.claims
      p_second.claims p_same.claims q_same.claims
  · exact Table.changes_commute apart.pods p_first.pods q_second.pods q_first.pods
      p_second.pods p_same.pods q_same.pods
  · exact Table.changes_commute apart.volumes p_first.volumes q_second.volumes q_first.volumes
      p_second.volumes p_same.volumes q_same.volumes

end Commute

end VolumeHandover
