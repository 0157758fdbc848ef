import VolumeHandover.Proofs.SharedCluster

set_option autoImplicit false

/-! # Worlds have histories

A program that runs in a `World` shares its cluster with the clients on the agenda. The
occurrences of its run (`Program.trail`) are a history in which these clients act
(`history_trail`). What they do while the program waits is taken to come before the answer to
the wait, so that the watch is read last.
-/

namespace VolumeHandover

namespace Cluster

/-! ## Other clients -/

/-- What another client does, who acts only in ways that are allowed. -/
def Performs (allowed : ClientAction → Prop) (s s' : Cluster) : Prop :=
  ∃ action, allowed action ∧ s' = s.perform action

/-- What is left when the clients on an agenda have acted one after the other. -/
def performAll (s : Cluster) (agenda : List (Nat × ClientAction)) : Cluster :=
  agenda.foldl (fun s e => s.perform e.2) s

theorem performAll_append (s : Cluster) (first second : List (Nat × ClientAction)) :
    s.performAll (first ++ second) = (s.performAll first).performAll second :=
  List.foldl_append

theorem bindClaim_cases (s : Cluster) (key : String) :
    s.bindClaim key = s ∨ ∃ claim, s.claim? key = some claim ∧
      (∀ k, (s.bindClaim key).claim? k =
        if k = key then some (boundClaim claim) else s.claim? k) ∧
      (s.bindClaim key).events = s.events ++ [(key, .applied (boundClaim claim))] ∧
      (s.bindClaim key).watches = s.watches := by
  cases hc : s.objects.claims.get? key with
  | none => exact .inl (by simp only [bindClaim, backendBind, hc, Option.map_none])
  | some claim =>
      refine .inr ⟨claim, hc, fun k => ?_, ?_, ?_⟩
      all_goals simp only [bindClaim, backendBind, hc, Option.map_some, emit, withClaims,
        withVolumes, claim?]
      exact Table.get?_insert _

theorem bindClaim_reports (s : Cluster) (key bound : String) :
    Reports key s (s.bindClaim bound) := by
  rcases s.bindClaim_cases bound with h | ⟨claim, -, claims, events, watches⟩
  · exact reports_of_same (congrArg (·.events) h) (congrArg (·.watches) h)
  · exact reports_of_applied events watches ((claims _).trans (if_pos rfl))

theorem perform_reports (s : Cluster) (key : String) (action : ClientAction) :
    Reports key s (s.perform action) := by
  cases action with
  | bindClaim space name => exact s.bindClaim_reports key (keyIn space name)
  | deleteClaim space name => exact s.reports_call key (.deleteClaim space name)
  | patchClaim space name patch => exact s.reports_call key (.patchClaim space name patch)

/-- Other clients do not look at watches. -/
theorem perform_with (s : Cluster) (watches : List Subscription) (action : ClientAction) :
    ({ s with watches } : Cluster).perform action = { s.perform action with watches } := by
  cases action with
  | bindClaim space name =>
      simp only [perform, bindClaim, backendBind, withClaims, withVolumes, emit]
      cases s.objects.claims.get? (keyIn space name) <;> rfl
  | deleteClaim space name =>
      simp only [perform, deleteClaim, record, withClaims, emit]
      cases s.switches.claimDeleteFailures with
      | succ left => rfl
      | zero => cases s.objects.claims.get? (keyIn space name) <;> rfl
  | patchClaim space name patch =>
      simp only [perform, patchClaim, recordPatch, record, withClaims, emit]
      cases s.objects.claims.get? (keyIn space name) with
      | none => rfl
      | some claim =>
          dsimp only
          cases Cluster.patched claim patch <;> rfl

variable (s : Cluster) (agenda : List (Nat × ClientAction))

theorem performAll_with (watches : List Subscription) :
    ({ s with watches } : Cluster).performAll agenda = { s.performAll agenda with watches } := by
  induction agenda generalizing s with
  | nil => rfl
  | cons e agenda ih =>
      show (({ s with watches } : Cluster).perform e.2).performAll agenda = _
      rw [perform_with]
      exact ih (s.perform e.2)

theorem performAll_watches : (s.performAll agenda).watches = s.watches :=
  congrArg (·.watches) (s.performAll_with agenda s.watches)

theorem performAll_events : ∃ more, (s.performAll agenda).events = s.events ++ more := by
  induction agenda generalizing s with
  | nil => exact ⟨[], (List.append_nil _).symm⟩
  | cons e agenda ih =>
      obtain ⟨more₁, h₁, -⟩ := (s.perform_reports "" e.2).events
      obtain ⟨more₂, h₂⟩ := ih (s.perform e.2)
      exact ⟨more₁ ++ more₂, by rw [← List.append_assoc, ← h₁]; exact h₂⟩

theorem performAll_reaches {allowed : ClientAction → Prop}
    (all : ∀ e ∈ agenda, allowed e.2) :
    Relation.ReflTransGen (Performs allowed) s (s.performAll agenda) := by
  induction agenda generalizing s with
  | nil => exact .refl
  | cons e agenda ih =>
      exact .head ⟨e.2, all e List.mem_cons_self, rfl⟩
        (ih (s.perform e.2) fun e he => all e (.tail _ he))

end Cluster

/-! ## Reading a watch -/

namespace Cluster

/-- No watch is ahead of the events. -/
def Behind (s : Cluster) : Prop := ∀ sub ∈ s.watches, ∀ n ∈ sub.next, n ≤ s.events.length

theorem Behind.step {s s' : Cluster} (h : s.Behind) {more : List (String × ClaimEvent)}
    (events : s'.events = s.events ++ more) (watches : s'.watches = s.watches) : s'.Behind := by
  intro sub hsub n hn
  rw [watches] at hsub
  have le := h sub hsub n hn
  rw [events, List.length_append]
  omega

theorem Behind.call {s : Cluster} (h : s.Behind) (c : ApiCall) : (s.call c).2.Behind := by
  obtain ⟨more, events, -⟩ := (s.reports_call "" c).events
  cases c with
  | createClaim claim =>
      rcases s.createClaim_cases claim with he | ⟨-, stored, -, -, -, watches⟩
      · exact h.step events (congrArg (·.watches) he)
      · exact h.step events watches
  | patchClaim space name patch =>
      rcases s.patchClaim_cases space name patch with he | ⟨-, new, -, -, -, -, watches⟩
      · exact h.step events (congrArg (·.watches) he)
      · exact h.step events watches
  | deleteClaim space name =>
      rcases s.deleteClaim_cases space name with ⟨-, -, watches⟩ | ⟨claim, -, -, -, watches⟩
      · exact h.step events watches
      · exact h.step events watches
  | watchClaim space name =>
      intro sub hsub n hn
      rcases List.mem_append.mp hsub with old | new
      · exact h sub old n hn
      · rw [List.mem_singleton.mp new] at hn
        by_cases hc : s.switches.closeWatches = true
        · simp [hc] at hn
        · simp only [hc, Bool.false_eq_true, if_false, Option.mem_def, Option.some.injEq] at hn
          exact Nat.le_of_eq hn.symm
  | createPod pod => exact h.step events (s.createPod_untouched pod).watches
  | deletePod space name => exact h.step events (s.deletePod_untouched space name).watches
  | createVolume volume => exact h.step events (s.createVolume_untouched volume).watches
  | patchVolume name patch => exact h.step events (s.patchVolume_untouched name patch).watches
  | getNode name => exact h.step events rfl

end Cluster

theorem applied_of_firstDecision {events : List ClaimEvent} {bound : BoundClaim}
    (h : firstDecision? events = some (.bound bound)) : .applied bound.val ∈ events := by
  obtain ⟨event, mem, decides⟩ := List.exists_of_findSome?_eq_some h
  cases event with
  | deleted => cases decides
  | applied claim =>
      by_cases hb : claim.isBound = true
      · rw [decision?, dif_pos hb] at decides
        cases decides
        exact mem
      · rw [decision?, dif_neg hb] at decides
        cases decides

namespace Subscription

variable (w : Subscription) (events : List (String × ClaimEvent))

theorem drain_advances (h : ∀ n ∈ w.next, n ≤ events.length) :
    w.Advances (w.drain events).2 := by
  unfold drain
  cases hn : w.next with
  | none => exact ⟨rfl, .inr rfl, fun m hm => by simp at hm⟩
  | some n =>
      refine ⟨rfl, .inr rfl, fun m hm => ⟨n, hn, ?_⟩⟩
      rw [← Option.some.inj hm]
      exact h n hn

theorem drain_next {m : Nat} (hm : m ∈ (w.drain events).2.next) : m = events.length := by
  unfold drain at hm
  cases hn : w.next with
  | none => simp [hn] at hm
  | some n =>
      rw [hn] at hm
      exact (Option.some.inj hm).symm

theorem drain_offers {claim : Claim} (h : .applied claim ∈ (w.drain events).1) :
    w.Offers events claim := by
  have initial (hi : .applied claim ∈ w.initial.toList.map ClaimEvent.applied) :
      w.initial = some claim := by
    obtain ⟨c, hc, he⟩ := List.mem_map.mp hi
    rw [Option.mem_toList] at hc
    rw [← ClaimEvent.applied.inj he]
    exact hc
  unfold drain at h
  cases hn : w.next with
  | none =>
      rw [hn] at h
      exact .inl (initial h)
  | some n =>
      rw [hn] at h
      rcases List.mem_append.mp h with hi | fresh
      · exact .inl (initial hi)
      · obtain ⟨⟨k, event⟩, he, shown⟩ := List.mem_map.mp fresh
        obtain ⟨mem, key⟩ := List.mem_filter.mp he
        have le : n ≤ position n events.length := Nat.le_max_left ..
        refine .inr ⟨n, hn, List.drop_subset_drop_left _ le ?_⟩
        rw [← of_decide_eq_true key, ← show event = .applied claim from shown]
        exact mem

end Subscription

theorem advances_set {watches : List Subscription} {n : Nat} {w w' : Subscription}
    (hw : watches[n]? = some w) (advances : w.Advances w') :
    List.Forall₂ Subscription.Advances watches (watches.set n w') := by
  induction watches generalizing n with
  | nil => cases hw
  | cons head rest ih =>
      cases n with
      | zero =>
          rw [← Option.some.inj hw] at advances
          exact .cons advances (List.forall₂_same.mpr fun w _ => .refl w)
      | succ n => exact .cons (.refl head) (ih hw)

namespace World

/-- What a watch that has been read is going to find was added by the clients who act until
then. -/
theorem coming_offers {s : Cluster} {w : Subscription} {agenda : List (Nat × ClientAction)}
    {bound : BoundClaim} {due : Nat} (behind : ∀ n ∈ w.next, n ≤ s.events.length)
    (h : coming? s w agenda = some (.bound bound, due)) :
    ∃ acting e rest, agenda = acting ++ e :: rest ∧ e.1 = due ∧
      w.Offers (s.performAll (acting ++ [e])).events bound.val := by
  induction agenda generalizing s w with
  | nil => cases h
  | cons e agenda ih =>
      obtain ⟨time, action⟩ := e
      rw [coming?] at h
      dsimp only at h
      cases hd : firstDecision? (w.drain (s.perform action).events).1 with
      | some decision =>
          rw [hd] at h
          obtain ⟨rfl, rfl⟩ := Prod.mk.inj (Option.some.inj h)
          exact ⟨[], _, agenda, rfl, rfl, w.drain_offers _ (applied_of_firstDecision hd)⟩
      | none =>
          rw [hd] at h
          obtain ⟨more, events, -⟩ := (s.perform_reports "" action).events
          have still : ∀ n ∈ w.next, n ≤ (s.perform action).events.length := by
            intro n hn
            have le := behind n hn
            rw [events, List.length_append]
            omega
          obtain ⟨acting, e, rest, rfl, he, offers⟩ :=
            ih (fun n hn => Nat.le_of_eq (w.drain_next _ hn)) h
          -- the watch that is read again is a later stage of the one that was read before
          have advances := w.drain_advances (s.perform action).events still
          exact ⟨(time, action) :: acting, e, rest, rfl, he, advances.offers offers⟩

/-! ## Waiting -/

/-- No watch is ahead of the events, and the agenda is in order of time. -/
structure Sound (w : World) : Prop where
  watches : w.cluster.Behind
  agenda : w.agenda.Pairwise fun a b => a.1 ≤ b.1

/-- While time passes, the clients who come first on the agenda act. -/
structure Waits (w w' : World) (acting : List (Nat × ClientAction)) : Prop where
  cluster : w'.cluster = w.cluster.performAll acting
  agenda : w.agenda = acting ++ w'.agenda

theorem waits_refl (w : World) : w.Waits w [] := ⟨rfl, rfl⟩

theorem Waits.sound {w w' : World} {acting : List (Nat × ClientAction)}
    (h : w.Waits w' acting) (sound : w.Sound) : w'.Sound := by
  refine ⟨?_, ?_⟩
  · obtain ⟨more, events⟩ := w.cluster.performAll_events acting
    rw [h.cluster]
    exact sound.watches.step events (w.cluster.performAll_watches acting)
  · have sorted := sound.agenda
    rw [h.agenda] at sorted
    exact (List.pairwise_append.mp sorted).2.1

theorem actUntil_waits (w : World) (time : Nat) :
    w.Waits (w.actUntil time) (w.agenda.takeWhile (·.1 ≤ time)) :=
  ⟨rfl, List.takeWhile_append_dropWhile.symm⟩

theorem waitUntil_waits (w : World) (time : Nat) :
    ∃ acting, w.Waits (w.waitUntil time) acting := by
  unfold waitUntil
  by_cases h : w.now < time
  · rw [if_pos h]
    exact ⟨_, (w.actUntil_waits (time - 1)).cluster, (w.actUntil_waits (time - 1)).agenda⟩
  · rw [if_neg h]
    exact ⟨[], w.waits_refl⟩

/-- If the agenda is in order, those who are due by a time include all up to one who is. -/
theorem takeWhile_of_sorted {agenda acting rest : List (Nat × ClientAction)}
    {e : Nat × ClientAction} (sorted : agenda.Pairwise fun a b => a.1 ≤ b.1)
    (h : agenda = acting ++ e :: rest) :
    ∃ more, agenda.takeWhile (·.1 ≤ e.1) = acting ++ [e] ++ more := by
  have due : ∀ a ∈ acting ++ [e], decide (a.1 ≤ e.1) = true := by
    intro a ha
    rw [h] at sorted
    rcases List.mem_append.mp ha with ha | ha
    · exact decide_eq_true
        ((List.pairwise_append.mp sorted).2.2 a ha e List.mem_cons_self)
    · rw [List.mem_singleton.mp ha]
      exact decide_eq_true (Nat.le_refl _)
  rw [h, show acting ++ e :: rest = (acting ++ [e]) ++ rest by simp,
    List.takeWhile_append_of_pos due]
  exact ⟨_, rfl⟩

/-- The world with other stages of its watches. -/
def reading (w : World) (watches : List Subscription) : World :=
  { w with cluster := { w.cluster with watches } }

/-- What has become of a world in which a watch was waited for. -/
structure Awaits (w : World) (watch : Watch) (answer : Awaited) (w' : World)
    (acting : List (Nat × ClientAction)) (watches : List Subscription) : Prop where
  cluster : w'.cluster = { w.cluster.performAll acting with watches }
  agenda : w.agenda = acting ++ w'.agenda
  read : List.Forall₂ Subscription.Advances w.cluster.watches watches
  behind : ∀ sub ∈ watches, ∀ n ∈ sub.next, n ≤ w.cluster.events.length
  honest : ∀ bound, answer = .decided (.bound bound) → ∃ sub,
    w.cluster.watch? watch = some sub ∧
      sub.Offers (w.cluster.performAll acting).events bound.val

/-- The world once a watch has been read. -/
def afterReading (w : World) (watch : Watch) (sub : Subscription) : World :=
  w.reading (w.cluster.watches.set watch.number (sub.drain w.cluster.events).2)

theorem decided_eq {w : World} {watch : Watch} {sub : Subscription}
    (hw : w.cluster.watch? watch = some sub) :
    w.decided? watch =
      (match firstDecision? (sub.drain w.cluster.events).1 with
        | some decision => some (.decided decision)
        | none => if (sub.drain w.cluster.events).2.next.isNone then some .closed else none,
      w.afterReading watch sub) := by
  unfold decided?
  rw [hw]
  dsimp only
  cases firstDecision? (sub.drain w.cluster.events).1 <;> rfl

/-- A watch that has been read waits for the clients on the agenda. -/
theorem awaitBound_of_undecided {w w₁ : World} {watch : Watch} {sub : Subscription}
    (h : w.decided? watch = (none, w₁)) (hw : w₁.cluster.watch? watch = some sub)
    (timeout : Duration) :
    w.awaitBound watch timeout = (.timedOut, w₁.waitUntil (w₁.now + timeout.ticks)) ∨
    ∃ decision due, coming? w₁.cluster sub
        (w₁.agenda.takeWhile (·.1 < w₁.now + timeout.ticks)) = some (decision, due) ∧
      w.awaitBound watch timeout = (.decided decision, w₁.actUntil due) := by
  unfold awaitBound
  rw [h]
  dsimp only
  rw [hw, Option.bind_some]
  by_cases ht : w₁.now < w₁.now + timeout.ticks
  · rw [if_pos ht]
    cases hc : coming? w₁.cluster sub (w₁.agenda.takeWhile (·.1 < w₁.now + timeout.ticks)) with
    | none => exact .inl rfl
    | some found => exact .inr ⟨found.1, found.2, rfl, rfl⟩
  · rw [if_neg ht]
    exact .inl rfl

/-- What a watch that has been read is going to find is there once the clients have acted who
are due by then. -/
theorem offers_of_coming {w : World} {sub : Subscription} {watches : List Subscription}
    {deadline due : Nat} {bound : BoundClaim} (sound : w.Sound) (mem : sub ∈ w.cluster.watches)
    (coming : coming? (w.reading watches).cluster (sub.drain w.cluster.events).2
      (w.agenda.takeWhile (·.1 < deadline)) = some (.bound bound, due)) :
    sub.Offers (w.cluster.performAll (w.agenda.takeWhile (·.1 ≤ due))).events bound.val := by
  obtain ⟨acting, e, rest, split, rfl, offers⟩ :=
    coming_offers (fun n hn => Nat.le_of_eq (sub.drain_next _ hn)) coming
  have agenda : w.agenda =
      acting ++ e :: (rest ++ w.agenda.dropWhile (·.1 < deadline)) := by
    rw [← List.cons_append, ← List.append_assoc, ← split, List.takeWhile_append_dropWhile]
  obtain ⟨more, all⟩ := takeWhile_of_sorted sound.agenda agenda
  obtain ⟨later, events⟩ := (w.cluster.performAll (acting ++ [e])).performAll_events more
  rw [all, Cluster.performAll_append, events]
  refine ((sub.drain_advances w.cluster.events (sound.watches sub mem)).offers ?_).append
  rw [show (w.reading watches).cluster.performAll (acting ++ [e]) = _ from
    w.cluster.performAll_with (acting ++ [e]) watches] at offers
  exact offers

/-- A watch is read, and then clients act on the cluster as it is. -/
theorem awaits_of_waits {w w' : World} {watch : Watch} {sub : Subscription} {answer : Awaited}
    {acting : List (Nat × ClientAction)} (sound : w.Sound)
    (hw : w.cluster.watch? watch = some sub) (waits : (w.afterReading watch sub).Waits w' acting)
    (honest : ∀ bound, answer = .decided (.bound bound) →
      sub.Offers (w.cluster.performAll acting).events bound.val) :
    ∃ acting watches, w.Awaits watch answer w' acting watches := by
  have mem : sub ∈ w.cluster.watches := List.mem_of_getElem? hw
  have advances := sub.drain_advances w.cluster.events (sound.watches sub mem)
  refine ⟨acting, _, waits.cluster.trans (w.cluster.performAll_with acting _), waits.agenda,
    advances_set hw advances, ?_, fun bound hb => ⟨sub, hw, honest bound hb⟩⟩
  intro other hother n hn
  rcases List.mem_or_eq_of_mem_set hother with old | rfl
  · exact sound.watches other old n hn
  · exact Nat.le_of_eq (sub.drain_next _ hn)

theorem awaitBound_awaits {w : World} (sound : w.Sound) (watch : Watch) (timeout : Duration) :
    ∃ acting watches, w.Awaits watch (w.awaitBound watch timeout).1
      (w.awaitBound watch timeout).2 acting watches := by
  cases hw : w.cluster.watch? watch with
  | none =>
      have he : w.awaitBound watch timeout = (.closed, w) := by
        simp only [awaitBound, decided?, hw]
      rw [he]
      exact ⟨[], w.cluster.watches, rfl, rfl, List.forall₂_same.mpr fun w _ => .refl w,
        sound.watches, by simp⟩
  | some sub =>
      have decided := decided_eq hw
      cases hd : firstDecision? (sub.drain w.cluster.events).1 with
      | some decision =>
          rw [hd] at decided
          rw [show w.awaitBound watch timeout = _ by unfold awaitBound; rw [decided]]
          refine awaits_of_waits sound hw (waits_refl _) fun bound hb => ?_
          cases hb
          exact sub.drain_offers _ (applied_of_firstDecision hd)
      | none =>
          rw [hd] at decided
          by_cases closed : (sub.drain w.cluster.events).2.next.isNone = true
          · rw [if_pos closed] at decided
            rw [show w.awaitBound watch timeout = _ by unfold awaitBound; rw [decided]]
            exact awaits_of_waits sound hw (waits_refl _) (by simp)
          · rw [if_neg closed] at decided
            obtain ⟨hn, -⟩ := List.getElem?_eq_some_iff.mp hw
            have hw₁ : (w.afterReading watch sub).cluster.watch? watch =
                some (sub.drain w.cluster.events).2 := List.getElem?_set_self hn
            rcases awaitBound_of_undecided decided hw₁ timeout with
              he | ⟨decision, due, coming, he⟩
            · rw [he]
              obtain ⟨acting, waits⟩ := waitUntil_waits _ _
              exact awaits_of_waits sound hw waits (by simp)
            · rw [he]
              refine awaits_of_waits sound hw (actUntil_waits _ due) fun bound hb => ?_
              cases hb
              exact offers_of_coming sound (List.mem_of_getElem? hw) coming

/-! ## Runs -/

/-- A request and its answer as an occurrence; the clients who act meanwhile have acted. -/
def occurrence (w : World) (r : Request) : Occurrence where
  before :=
    match r with
    | .call _ => w.cluster
    | _ => { (answer r w).2.cluster with watches := w.cluster.watches }
  exchange := ⟨r, (answer r w).1⟩
  after := (answer r w).2.cluster

/-- A request is answered as a cluster can answer it, once the clients have acted who come
first on the agenda. -/
structure Steps (w : World) (r : Request) (acting : List (Nat × ClientAction)) : Prop where
  before : (w.occurrence r).before = w.cluster.performAll acting
  serves : (w.occurrence r).before.Serves (w.occurrence r).exchange (w.occurrence r).after
  agenda : w.agenda = acting ++ (answer r w).2.agenda
  sound : (answer r w).2.Sound

theorem call_cases (w : World) (c : ApiCall) :
    (∃ e failures, w.call c = (.error e, { w with failures })) ∨
    ∃ failures, w.call c =
      ((w.cluster.call c).1, { w with failures, cluster := (w.cluster.call c).2 }) := by
  unfold World.call
  cases h : armedError c.method w.failures with
  | mk error failures =>
      cases error with
      | none => exact .inr ⟨failures, rfl⟩
      | some e => exact .inl ⟨e, failures, rfl⟩

theorem steps_call {w : World} (sound : w.Sound) (c : ApiCall) : w.Steps (.call c) [] := by
  have ha : answer (.call c) w = (w.noted (.call c)).call c := rfl
  rcases (w.noted (.call c)).call_cases c with ⟨e, failures, hc⟩ | ⟨failures, hc⟩
  · refine ⟨rfl, ?_, ?_, ?_⟩
    · unfold occurrence
      rw [ha, hc]
      exact .refused w.cluster c e
    · rw [ha, hc]
      rfl
    · rw [ha, hc]
      exact ⟨sound.watches, sound.agenda⟩
  · refine ⟨rfl, ?_, ?_, ?_⟩
    · unfold occurrence
      rw [ha, hc]
      exact .answered w.cluster c
    · rw [ha, hc]
      rfl
    · rw [ha, hc]
      exact ⟨sound.watches.call c, sound.agenda⟩

theorem steps_awaitBound {w : World} (sound : w.Sound) (watch : Watch) (timeout : Duration) :
    ∃ acting, w.Steps (.awaitBound watch timeout) acting := by
  have noted : (w.noted (.awaitBound watch timeout)).Sound := ⟨sound.watches, sound.agenda⟩
  obtain ⟨acting, watches, h⟩ := awaitBound_awaits noted watch timeout
  have cluster : (answer (.awaitBound watch timeout) w).2.cluster =
      { w.cluster.performAll acting with watches } := h.cluster
  have before : (w.occurrence (.awaitBound watch timeout)).before =
      w.cluster.performAll acting := by
    show { (answer (.awaitBound watch timeout) w).2.cluster with
      watches := w.cluster.watches } = _
    rw [cluster, ← w.cluster.performAll_watches acting]
  refine ⟨acting, before, ?_, h.agenda, ?_, ?_⟩
  · rw [before]
    show Cluster.Serves _ _ (answer (.awaitBound watch timeout) w).2.cluster
    rw [cluster]
    refine .awaited _ ?_ fun bound hb => ?_
    · rw [w.cluster.performAll_watches acting]
      exact h.read
    · obtain ⟨sub, hw, offers⟩ := h.honest bound hb
      refine ⟨sub, ?_, offers⟩
      rw [Cluster.watch?, w.cluster.performAll_watches acting]
      exact hw
  · obtain ⟨more, events⟩ := w.cluster.performAll_events acting
    rw [cluster]
    intro sub hsub n hn
    have le : n ≤ w.cluster.events.length := h.behind sub hsub n hn
    show n ≤ (w.cluster.performAll acting).events.length
    rw [events, List.length_append]
    omega
  · have sorted := sound.agenda
    rw [show w.agenda = _ from h.agenda] at sorted
    exact (List.pairwise_append.mp sorted).2.1

theorem steps_pause {w : World} (sound : w.Sound) (interval : Duration) :
    ∃ acting, w.Steps (.pause interval) acting := by
  have noted : (w.noted (.pause interval)).Sound := ⟨sound.watches, sound.agenda⟩
  have ha : answer (.pause interval) w = ((), (w.noted (.pause interval)).waitUntil
      ((w.noted (.pause interval)).now + interval.pauseTicks)) := rfl
  obtain ⟨acting, waits⟩ := waitUntil_waits (w.noted (.pause interval))
    ((w.noted (.pause interval)).now + interval.pauseTicks)
  generalize (w.noted (.pause interval)).waitUntil _ = w' at ha waits
  have before : (w.occurrence (.pause interval)).before = w.cluster.performAll acting := by
    unfold occurrence
    rw [ha, waits.cluster]
    exact congrArg (fun watches => { w.cluster.performAll acting with watches })
      (w.cluster.performAll_watches acting).symm
  refine ⟨acting, before, ?_, ?_, ?_⟩
  · rw [before]
    unfold occurrence
    rw [ha, waits.cluster]
    exact .paused _ interval
  · rw [ha]
    exact waits.agenda
  · rw [ha]
    exact waits.sound noted

theorem steps {w : World} (sound : w.Sound) (r : Request) : ∃ acting, w.Steps r acting := by
  cases r with
  | call c => exact ⟨[], steps_call sound c⟩
  | find l => exact ⟨[], rfl, .found w.cluster l _, rfl, sound.watches, sound.agenda⟩
  | awaitBound watch timeout => exact steps_awaitBound sound watch timeout
  | pause interval => exact steps_pause sound interval
  | clock => exact ⟨[], rfl, .clock w.cluster w.now, rfl, sound.watches, sound.agenda⟩
  | delegate options =>
      exact ⟨[], rfl, .delegated w.cluster options _, rfl, sound.watches, sound.agenda⟩

end World

namespace Program

variable {α : Type}

/-- The occurrences of a run. -/
def trail : Program α → World → List Occurrence
  | .done _, _ => []
  | .ask r next, w =>
      w.occurrence r :: (next (World.answer r w).1).trail (World.answer r w).2

theorem exchanges_trail (p : Program α) (w : World) :
    (p.trail w).map (·.exchange) = p.exchanges World.answer w := by
  induction p generalizing w with
  | done a => rfl
  | ask r next ih => exact congrArg (_ :: ·) (ih _ _)

/-- What holds of every request and its answer, as long as an invariant of the world does, holds
of all occurrences of a run. -/
theorem trail_all {inv : World → Prop} {good : Occurrence → Prop} (p : Program α) {w : World}
    (step : ∀ w r, inv w → good (w.occurrence r) ∧ inv (World.answer r w).2) (h : inv w) :
    (∀ x ∈ p.trail w, good x) ∧ inv (w.run p).2 := by
  induction p generalizing w with
  | done a => exact ⟨fun x hx => absurd hx List.not_mem_nil, h⟩
  | ask r next ih =>
      obtain ⟨first, after⟩ := step w r h
      obtain ⟨rest, last⟩ := ih (World.answer r w).1 after
      exact ⟨List.forall_mem_cons.mpr ⟨first, rest⟩, last⟩

/-- The occurrences of a run in a world are a history of its cluster. -/
theorem history_trail {allowed : ClientAction → Prop} (p : Program α) {w : World}
    (sound : w.Sound) (all : ∀ e ∈ w.agenda, allowed e.2) :
    History (Cluster.Performs allowed) w.cluster (p.trail w) (w.run p).2.cluster ∧
      (w.run p).2.Sound ∧ ∀ e ∈ (w.run p).2.agenda, allowed e.2 := by
  induction p generalizing w with
  | done a => exact ⟨.done _, sound, all⟩
  | ask r next ih =>
      obtain ⟨acting, steps⟩ := World.steps sound r
      rw [steps.agenda] at all
      obtain ⟨rest, sound', all'⟩ :=
        ih (World.answer r w).1 steps.sound fun e he => all e (List.mem_append_right _ he)
      refine ⟨.of_reaches (w.cluster.performAll_reaches acting fun e he =>
        all e (List.mem_append_left _ he)) ?_, sound', all'⟩
      rw [← steps.before]
      exact .served steps.serves rest

/-- A run in a world without other clients is a history in which nobody else acts. -/
theorem history_trail_alone {others : Cluster → Cluster → Prop} (p : Program α) {w : World}
    (sound : w.Sound) (alone : w.agenda = []) :
    History others w.cluster (p.trail w) (w.run p).2.cluster ∧
      (w.run p).2.Sound ∧ (w.run p).2.agenda = [] := by
  have run : History (Cluster.Performs fun _ => False) w.cluster (p.trail w)
      (w.run p).2.cluster ∧ (w.run p).2.Sound ∧ ∀ e ∈ (w.run p).2.agenda, False :=
    p.history_trail sound (by simp [alone])
  obtain ⟨history, sound', all⟩ := run
  refine ⟨history.mono fun s s' act => ?_, sound', List.eq_nil_iff_forall_not_mem.mpr all⟩
  obtain ⟨action, never, -⟩ := act
  exact never.elim

end Program

namespace World

/-- What calls to provision come to that are made one after the other. -/
def provisions (w : World) : List (Config × ProvisionOptions) → List Call
  | [] => []
  | (config, options) :: plan =>
      { config, options
        occurrences := (provision config options).trail w
        result := some (w.run (provision config options)).1 } ::
        (w.run (provision config options)).2.provisions plan

/-- Calls in a world are a session of its cluster. -/
theorem session_provisions {allowed : ClientAction → Prop} {w : World} (sound : w.Sound)
    (all : ∀ e ∈ w.agenda, allowed e.2) (plan : List (Config × ProvisionOptions)) :
    ∃ s', Session (Cluster.Performs allowed) w.cluster (w.provisions plan) s' := by
  induction plan generalizing w with
  | nil => exact ⟨_, .done w.cluster, by simp [provisions]⟩
  | cons entry plan ih =>
      obtain ⟨config, options⟩ := entry
      obtain ⟨first, sound', all'⟩ := (provision config options).history_trail sound all
      obtain ⟨s', rest⟩ := ih sound' all'
      refine ⟨s', first.append rest.history, fun call hcall => ?_⟩
      rcases List.mem_cons.mp hcall with rfl | hcall
      · rw [Call.exchanges, Program.exchanges_trail]
        exact Program.traces_run _ _ _
      · exact rest.traces call hcall

end World

end VolumeHandover
