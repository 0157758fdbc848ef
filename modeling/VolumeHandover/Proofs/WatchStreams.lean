import VolumeHandover.Cluster.Sample
import VolumeHandover.Proofs.Calls

set_option autoImplicit false

/-! # Watches lose and invent nothing

A watch begins with the claim as it is stored and goes on with what happens to it. While calls
are made, the backend binds claims and this and other watches are read, every operation that takes
effect on a claim is told once, as the state that it leaves (`Operation.apply_events`), and an
operation that fails is not told. So what a watch delivers is a beginning of what was and became
of its claim (`watch_faithful`), and the end of that is the state of the claim. This needs that the
watch does not fall behind the buffer, which the events of all claims share.
-/

namespace VolumeHandover

/-! ## What a watch has still to deliver -/

/-- The events of one claim. -/
def eventsOf (key : String) (events : List (String × ClaimEvent)) : List ClaimEvent :=
  (events.filter fun e => e.1 = key).map (·.2)

theorem eventsOf_cons_self (key : String) (event : ClaimEvent)
    (rest : List (String × ClaimEvent)) :
    eventsOf key ((key, event) :: rest) = event :: eventsOf key rest := by
  simp [eventsOf]

theorem eventsOf_cons_of_ne {k key : String} (other : k ≠ key) (event : ClaimEvent)
    (rest : List (String × ClaimEvent)) :
    eventsOf key ((k, event) :: rest) = eventsOf key rest := by
  simp [eventsOf, other]

theorem eventsOf_append (key : String) (events more : List (String × ClaimEvent)) :
    eventsOf key (events ++ more) = eventsOf key events ++ eventsOf key more := by
  rw [eventsOf, List.filter_append, List.map_append]
  rfl

/-- What a poll delivers. -/
def Poll.items : Poll → List ClaimEvent
  | .item event => [event]
  | .ended | .quiet => []

/-- The answer of a watch that has still to deliver some events. -/
def Poll.next : List ClaimEvent → Poll
  | [] => .quiet
  | event :: _ => .item event

theorem Poll.next_items (events : List ClaimEvent) :
    (Poll.next events).items ++ events.tail = events := by
  cases events <;> rfl

namespace Subscription

variable {w : Subscription} {key : String} {events more : List (String × ClaimEvent)}

theorem firstOf_none (h : firstOf key events = none) : eventsOf key events = [] := by
  induction events with
  | nil => rfl
  | cons e rest ih =>
      obtain ⟨k, event⟩ := e
      unfold firstOf at h
      by_cases same : k = key
      · rw [if_pos same] at h
        cases h
      · rw [if_neg same] at h
        rw [eventsOf_cons_of_ne same]
        exact ih (Option.map_eq_none_iff.mp h)

theorem firstOf_some {event : ClaimEvent} {n : Nat} (h : firstOf key events = some (event, n)) :
    eventsOf key events = event :: eventsOf key (events.drop n) ∧ n ≤ events.length := by
  induction events generalizing n with
  | nil => cases h
  | cons e rest ih =>
      obtain ⟨k, first⟩ := e
      unfold firstOf at h
      by_cases same : k = key
      · rw [if_pos same] at h
        cases h
        rw [same, eventsOf_cons_self, List.drop_one]
        exact ⟨rfl, by simp⟩
      · rw [if_neg same] at h
        obtain ⟨⟨event', m⟩, found, he⟩ := Option.map_eq_some_iff.mp h
        obtain ⟨rfl, rfl⟩ := Prod.mk.inj he
        obtain ⟨split, le⟩ := ih found
        rw [eventsOf_cons_of_ne same, List.drop_succ_cons]
        exact ⟨split, Nat.succ_le_succ le⟩

/-- The watch goes on behind the state at its beginning, from event `n` on. -/
structure StandsAt (w : Subscription) (key : String) (events : List (String × ClaimEvent))
    (n : Nat) : Prop where
  key : w.key = key
  next : w.next = some n
  le : n ≤ events.length

/-- What a watch has still to deliver: the state at its beginning, unless that is delivered, and
the events of its claim from its place on. -/
def backlog (events : List (String × ClaimEvent)) (w : Subscription) : List ClaimEvent :=
  w.initial.toList.map .applied ++
    w.next.toList.flatMap fun n => eventsOf w.key (events.drop n)

/-- How many events, of any claims, are pending for a watch. -/
def pending (events : List (String × ClaimEvent)) (w : Subscription) : Nat :=
  (w.next.map (events.length - ·)).getD 0

theorem StandsAt.backlog_eq {n : Nat} (stands : w.StandsAt key events n) :
    w.backlog events =
      w.initial.toList.map .applied ++ eventsOf key (events.drop n) := by
  rw [backlog, stands.next, stands.key, Option.toList_some, List.flatMap_singleton]

theorem StandsAt.append {n : Nat} (stands : w.StandsAt key events n) :
    w.StandsAt key (events ++ more) n :=
  ⟨stands.key, stands.next, by simpa using Nat.le_add_right_of_le stands.le⟩

theorem StandsAt.backlog_append {n : Nat} (stands : w.StandsAt key events n) :
    w.backlog (events ++ more) = w.backlog events ++ eventsOf key more := by
  rw [stands.append.backlog_eq, stands.backlog_eq, List.drop_append_of_le_length stands.le,
    eventsOf_append, List.append_assoc]

/-- A poll delivers the first event that is still to be delivered, if there is one, unless the
watch has fallen behind the buffer. -/
theorem StandsAt.poll {n : Nat} (stands : w.StandsAt key events n)
    (keeps : w.pending events ≤ eventBuffer) :
    (w.poll events).1 = .next (w.backlog events) ∧
      (w.poll events).2.backlog events = (w.backlog events).tail ∧
      ∃ m, (w.poll events).2.StandsAt key events m := by
  -- none of the pending events has left the buffer, so the watch goes on where it stands
  have start : position n events.length = n := by
    rw [pending, stands.next, Option.map_some, Option.getD_some] at keeps
    unfold position
    omega
  have place (initial : Option Claim) {m : Nat} (le : m ≤ events.length) :
      StandsAt ⟨key, initial, some m⟩ key events m := ⟨rfl, rfl, le⟩
  obtain ⟨_, initial, _⟩ := w
  obtain ⟨rfl, rfl, le⟩ := stands
  rw [(place initial le).backlog_eq]
  cases initial with
  | some claim => exact ⟨rfl, (place none le).backlog_eq, n, place none le⟩
  | none =>
      unfold Subscription.poll
      dsimp only
      rw [start, Option.toList_none, List.map_nil, List.nil_append]
      cases found : firstOf _ (events.drop n) with
      | none =>
          rw [firstOf_none found]
          refine ⟨rfl, ?_, _, place none (Nat.le_refl _)⟩
          rw [(place none (Nat.le_refl _)).backlog_eq, List.drop_length]
          rfl
      | some first =>
          obtain ⟨split, within⟩ := firstOf_some found
          have le : n + first.2 ≤ events.length := by
            rw [List.length_drop] at within
            omega
          rw [split]
          refine ⟨rfl, ?_, _, place none le⟩
          rw [(place none le).backlog_eq, List.drop_drop]
          rfl

end Subscription

/-! ## Operations -/

/-- A state of a claim, as it is told. -/
def ClaimEvent.ofState : Option Claim → ClaimEvent
  | some claim => .applied claim
  | none => .deleted

/-- The state of a claim that is told. -/
def ClaimEvent.state : ClaimEvent → Option Claim
  | .applied claim => some claim
  | .deleted => none

@[simp] theorem ClaimEvent.state_ofState (state : Option Claim) :
    (ClaimEvent.ofState state).state = state := by
  cases state <;> rfl

/-- What may be done to a cluster. -/
inductive Operation where
  | call (c : ApiCall)
  /-- The backend binds the claim under a key, if there is one. -/
  | bind (key : String)
  /-- The cluster changes its behaviour. -/
  | adjust (switches : Switches)

namespace Operation

/-- The cluster after an operation. -/
def apply (s : Cluster) : Operation → Cluster
  | .call c => (s.call c).2
  | .bind key => s.bindClaim key
  | .adjust switches => { s with switches }

/-- The key of the claim on which an operation takes effect. -/
def touched? (s : Cluster) : Operation → Option String
  | .call c => if (s.call c).1.isOk then c.claimKey? else none
  | .bind key => if (s.claim? key).isSome then some key else none
  | .adjust _ => none

/-- What becomes of the claim under `key` in an operation that takes effect on it: the state in
which it is stored afterwards. -/
def change (s : Cluster) (key : String) (op : Operation) : List ClaimEvent :=
  if op.touched? s = some key then [.ofState ((op.apply s).claim? key)] else []

variable (s : Cluster)

/-- What an operation tells the watches: the key and the state of the claim on which it takes
effect. -/
def told (op : Operation) : List (String × ClaimEvent) :=
  (op.touched? s).toList.map fun key => (key, .ofState ((op.apply s).claim? key))

theorem told_call (c : ApiCall) : told s (.call c) =
    if (s.call c).1.isOk then
      c.claimKey?.toList.map fun key => (key, .ofState ((s.call c).2.claim? key))
    else [] := by
  dsimp only [told, touched?, apply]
  by_cases ok : (s.call c).1.isOk = true
  · rw [if_pos ok, if_pos ok]
  · rw [if_neg ok, if_neg ok]
    rfl

theorem createClaim_events (claim : Claim) :
    (s.createClaim claim).2.events = s.events ++ told s (.call (.createClaim claim)) := by
  rw [told_call]
  show _ = s.events ++ if (s.createClaim claim).1.isOk then
    [(claim.key, .ofState ((s.createClaim claim).2.claim? claim.key))] else []
  unfold Cluster.createClaim
  by_cases there : (s.record (.createClaim claim.key)).objects.claims.contains claim.key = true
  · simp only [if_pos there]
    exact (List.append_nil _).symm
  · simp only [if_neg there]
    by_cases binds : s.switches.bindOnCreate = true
    · simp only [Cluster.record, Cluster.withClaims, Cluster.withVolumes, Cluster.backendBind,
        Cluster.emit, Cluster.claim?, binds, Table.get?_insert_self, if_true, Option.map_some,
        Option.getD_some]
      rfl
    · simp only [Cluster.record, Cluster.withClaims, Cluster.emit, Cluster.claim?, binds,
        Table.get?_insert_self, if_false, Bool.false_eq_true]
      rfl

theorem patchClaim_events (space name : String) (patch : Json) :
    (s.patchClaim space name patch).2.events =
      s.events ++ told s (.call (.patchClaim space name patch)) := by
  rw [told_call]
  show _ = s.events ++ if (s.patchClaim space name patch).1.isOk then
    [(keyIn space name, .ofState ((s.patchClaim space name patch).2.claim? (keyIn space name)))]
    else []
  cases found : s.objects.claims.get? (keyIn space name) with
  | none =>
      simp only [Cluster.patchClaim, Cluster.recordPatch, Cluster.record, found]
      exact (List.append_nil _).symm
  | some old =>
      cases result : Cluster.patched old patch with
      | error e =>
          simp only [Cluster.patchClaim, Cluster.recordPatch, Cluster.record, found, result]
          exact (List.append_nil _).symm
      | ok new =>
          simp only [Cluster.patchClaim, Cluster.recordPatch, Cluster.record, Cluster.withClaims,
            Cluster.emit, Cluster.claim?, found, result, Table.get?_insert_self]
          rfl

theorem deleteClaim_events (space name : String) :
    (s.deleteClaim space name).2.events =
      s.events ++ told s (.call (.deleteClaim space name)) := by
  rw [told_call]
  show _ = s.events ++ if (s.deleteClaim space name).1.isOk then
    [(keyIn space name, .ofState ((s.deleteClaim space name).2.claim? (keyIn space name)))] else []
  cases failures : s.switches.claimDeleteFailures with
  | succ left =>
      simp only [Cluster.deleteClaim, Cluster.record, failures]
      exact (List.append_nil _).symm
  | zero =>
      cases found : s.objects.claims.get? (keyIn space name) with
      | none =>
          simp only [Cluster.deleteClaim, Cluster.record, failures, found]
          exact (List.append_nil _).symm
      | some claim =>
          simp only [Cluster.deleteClaim, Cluster.record, Cluster.withClaims, Cluster.emit,
            Cluster.claim?, failures, found, Table.get?_erase_self]
          rfl

theorem bindClaim_events (key : String) :
    (s.bindClaim key).events = s.events ++ told s (.bind key) := by
  dsimp only [told, touched?, apply]
  cases found : s.objects.claims.get? key with
  | none =>
      simp only [Cluster.bindClaim, Cluster.backendBind, Cluster.claim?, found]
      exact (List.append_nil _).symm
  | some claim =>
      simp only [Cluster.bindClaim, Cluster.backendBind, Cluster.claim?, Cluster.emit,
        Cluster.withClaims, Cluster.withVolumes, found, Option.map_some, Option.isSome_some,
        if_true, Option.toList_some, List.map_cons, List.map_nil, Table.get?_insert_self]
      rfl

/-- A call that is not about a claim tells nothing. -/
theorem events_of_other {c : ApiCall} (other : c.claimKey? = none)
    (same : (s.call c).2.events = s.events) :
    (s.call c).2.events = s.events ++ told s (.call c) := by
  rw [told_call, other, same, Option.toList_none, List.map_nil, ite_self, List.append_nil]

/-- **An operation tells the watches what it does**: the claim on which it takes effect, in the
state that it leaves, once, and nothing if it fails. -/
theorem apply_events (op : Operation) : (op.apply s).events = s.events ++ told s op := by
  cases op with
  | call c =>
      cases c with
      | createClaim claim => exact createClaim_events s claim
      | patchClaim space name patch => exact patchClaim_events s space name patch
      | deleteClaim space name => exact deleteClaim_events s space name
      | watchClaim space name => exact events_of_other s rfl rfl
      | createPod pod => exact events_of_other s rfl (s.createPod_untouched pod).events
      | deletePod space name =>
          exact events_of_other s rfl (s.deletePod_untouched space name).events
      | createVolume volume => exact events_of_other s rfl (s.createVolume_untouched volume).events
      | patchVolume name patch =>
          exact events_of_other s rfl (s.patchVolume_untouched name patch).events
      | getNode name => exact events_of_other s rfl rfl
  | bind key => exact bindClaim_events s key
  | adjust switches => exact (List.append_nil _).symm

variable {s} {key : String} {op : Operation}

/-- The events of one claim in an operation. -/
theorem eventsOf_told : eventsOf key (told s op) = op.change s key := by
  unfold told change
  cases touched : op.touched? s with
  | none => rfl
  | some k =>
      by_cases same : k = key
      · rw [if_pos (congrArg some same), same]
        exact eventsOf_cons_self key _ []
      · rw [if_neg fun h => same (Option.some.inj h)]
        exact eventsOf_cons_of_ne same _ []

/-- An operation leaves a claim alone on which it takes no effect. -/
theorem apply_elsewhere (other : op.touched? s ≠ some key) :
    (op.apply s).claim? key = s.claim? key := by
  cases op with
  | call c =>
      show (s.call c).2.claim? key = s.claim? key
      cases answer : (s.call c).1 with
      | error e => exact Cluster.claim_of_objects (Cluster.call_error (Prod.ext answer rfl)) key
      | ok value =>
          refine Cluster.call_elsewhere rfl fun same => other ?_
          rw [touched?, answer]
          exact same
  | bind k =>
      rcases s.bindClaim_cases k with same | ⟨claim, stored, claims, -, -⟩
      · exact congrArg (·.claim? key) same
      · refine (claims key).trans (if_neg fun same => other ?_)
        rw [touched?, stored, same]
        rfl
  | adjust switches => rfl

theorem apply_watches (s : Cluster) (op : Operation) :
    s.watches <+: (op.apply s).watches := by
  have kept {watches : List Subscription} (same : watches = s.watches) : s.watches <+: watches :=
    same ▸ List.prefix_rfl
  cases op with
  | call c =>
      cases c with
      | createClaim claim =>
          rcases s.createClaim_cases claim with same | ⟨-, stored, -, -, -, watches⟩
          · exact kept (congrArg (·.watches) same)
          · exact kept watches
      | patchClaim space name patch =>
          rcases s.patchClaim_cases space name patch with same | ⟨old, new, -, -, -, -, watches⟩
          · exact kept (congrArg (·.watches) same)
          · exact kept watches
      | deleteClaim space name =>
          rcases s.deleteClaim_cases space name with ⟨-, -, watches⟩ | ⟨claim, -, -, -, watches⟩
          · exact kept watches
          · exact kept watches
      | watchClaim space name => exact List.prefix_append ..
      | createPod pod => exact kept (s.createPod_untouched pod).watches
      | deletePod space name => exact kept (s.deletePod_untouched space name).watches
      | createVolume volume => exact kept (s.createVolume_untouched volume).watches
      | patchVolume name patch => exact kept (s.patchVolume_untouched name patch).watches
      | getNode name => exact kept rfl
  | bind key =>
      rcases s.bindClaim_cases key with same | ⟨claim, -, -, -, watches⟩
      · exact kept (congrArg (·.watches) same)
      · exact kept watches
  | adjust switches => exact kept rfl

/-- A watch stays where it is while operations are made. -/
theorem apply_watch {watch : Watch} {w : Subscription} (hw : s.watch? watch = some w) :
    (op.apply s).watch? watch = some w := by
  obtain ⟨more, watches⟩ := apply_watches s op
  obtain ⟨within, -⟩ := List.getElem?_eq_some_iff.mp hw
  unfold Cluster.watch?
  rw [← watches]
  exact (List.getElem?_append_left within).trans hw

end Operation

/-! ## What becomes of a watch -/

namespace Cluster

/-- How many events, of any claims, are pending for a watch. -/
def pending (s : Cluster) (watch : Watch) : Nat :=
  ((s.watch? watch).map (·.pending s.events)).getD 0

/-- The state of a claim as a watch that begins delivers it: the claim, if there is one. -/
def shown (s : Cluster) (key : String) : List ClaimEvent := (s.claim? key).toList.map .applied

/-- What happens from a state on in which a watch on the claim under `key` has just begun:
operations take place, other watches are read, and the watch is polled in time. The first list is
what becomes of the claim, the second what the watch delivers. -/
inductive Course (key : String) (watch : Watch) (start : Cluster) :
    List ClaimEvent → List ClaimEvent → Cluster → Prop
  | begun : Course key watch start [] [] start
  | operated {changes items : List ClaimEvent} {s : Cluster}
      (before : Course key watch start changes items s) (op : Operation) :
      Course key watch start (changes ++ op.change s key) items (op.apply s)
  | read {changes items : List ClaimEvent} {s : Cluster}
      (before : Course key watch start changes items s) {watches : List Subscription}
      (others : watches[watch.number]? = s.watches[watch.number]?) :
      Course key watch start changes items { s with watches }
  | polled {changes items : List ClaimEvent} {s : Cluster}
      (before : Course key watch start changes items s) (keeps : s.pending watch ≤ eventBuffer) :
      Course key watch start changes (items ++ (s.poll watch).1.items) (s.poll watch).2

/-- A watch has delivered the beginning of `all` and has still to deliver the rest, and `all` ends
with the state in which the claim is stored. -/
structure Faithful (key : String) (watch : Watch) (all items : List ClaimEvent) (s : Cluster) :
    Prop where
  watched : ∃ w n, s.watch? watch = some w ∧ w.StandsAt key s.events n ∧
    items ++ w.backlog s.events = all
  stored : s.claim? key = all.getLast?.bind ClaimEvent.state

variable {key : String} {watch : Watch} {all items : List ClaimEvent} {s : Cluster}

theorem faithful_begun (s : Cluster) (space name : String)
    (goes_on : s.switches.closeWatches = false) :
    Faithful (keyIn space name) (s.watchClaim space name).1 (s.shown (keyIn space name)) []
      (s.watchClaim space name).2 := by
  have stands : Subscription.StandsAt
      ⟨keyIn space name, s.claim? (keyIn space name), some s.events.length⟩
      (keyIn space name) s.events s.events.length := ⟨rfl, rfl, Nat.le_refl _⟩
  refine ⟨⟨_, _, ?_, stands, ?_⟩, ?_⟩
  · unfold watch? watchClaim
    rw [goes_on]
    exact List.getElem?_concat_length
  · show _ ++ Subscription.backlog s.events _ = _
    rw [stands.backlog_eq, List.drop_length]
    exact List.append_nil _
  · show s.claim? (keyIn space name) = _
    unfold shown
    cases s.claim? (keyIn space name) <;> rfl

theorem Faithful.operated (h : Faithful key watch all items s) (op : Operation) :
    Faithful key watch (all ++ op.change s key) items (op.apply s) := by
  obtain ⟨w, n, hw, stands, split⟩ := h.watched
  refine ⟨⟨w, n, Operation.apply_watch hw, ?_, ?_⟩, ?_⟩
  · rw [Operation.apply_events]
    exact stands.append
  · rw [Operation.apply_events, stands.backlog_append, Operation.eventsOf_told, ← List.append_assoc,
      split]
  · unfold Operation.change
    by_cases touched : op.touched? s = some key
    · rw [if_pos touched, List.getLast?_concat]
      exact (ClaimEvent.state_ofState _).symm
    · rw [if_neg touched, List.append_nil, Operation.apply_elsewhere touched]
      exact h.stored

theorem Faithful.poll_eq (h : Faithful key watch all items s)
    (keeps : s.pending watch ≤ eventBuffer) :
    (s.poll watch).1 = .next (all.drop items.length) ∧
      Faithful key watch all (items ++ (s.poll watch).1.items) (s.poll watch).2 := by
  obtain ⟨w, n, hw, stands, split⟩ := h.watched
  rw [pending, hw] at keeps
  obtain ⟨answer, rest, m, moved⟩ := stands.poll keeps
  have rest_eq : all.drop items.length = w.backlog s.events := by
    rw [← split, List.drop_left]
  unfold poll
  rw [hw, rest_eq]
  refine ⟨answer, ⟨_, m, ?_, moved, ?_⟩, h.stored⟩
  · obtain ⟨within, -⟩ := List.getElem?_eq_some_iff.mp hw
    exact List.getElem?_set_self within
  · show _ ++ Poll.items (w.poll s.events).1 ++ (w.poll s.events).2.backlog s.events = _
    rw [answer, rest, List.append_assoc, Poll.next_items, split]

/-- Whatever happens, the watch stays faithful. -/
theorem Course.faithful {start : Cluster} {before changes : List ClaimEvent}
    (begun : Faithful key watch before [] start) (course : Course key watch start changes items s) :
    Faithful key watch (before ++ changes) items s := by
  induction course with
  | begun =>
      rw [List.append_nil]
      exact begun
  | operated _ op ih =>
      rw [← List.append_assoc]
      exact ih.operated op
  | read _ others ih =>
      obtain ⟨w, n, hw, rest⟩ := ih.watched
      exact ⟨⟨w, n, others.trans hw, rest⟩, ih.stored⟩
  | polled _ keeps ih => exact (ih.poll_eq keeps).2

/-- **A watch loses and invents nothing.** As long as it is polled in time, it delivers the state in
which its claim was stored when it began, if there was one, and then what became of the claim, one
after the other. A poll delivers what comes next, and nothing just if all has been delivered. Then
the last that was delivered is how the claim is stored. -/
theorem watch_faithful {space name : String} {changes items : List ClaimEvent} {s' : Cluster}
    (goes_on : s.switches.closeWatches = false)
    (course : Course (keyIn space name) (s.watchClaim space name).1 (s.watchClaim space name).2
      changes items s') :
    items <+: s.shown (keyIn space name) ++ changes ∧
    (s'.pending (s.watchClaim space name).1 ≤ eventBuffer →
      (s'.poll (s.watchClaim space name).1).1 =
          .next ((s.shown (keyIn space name) ++ changes).drop items.length) ∧
        ((s'.poll (s.watchClaim space name).1).1 = .quiet ↔
          items = s.shown (keyIn space name) ++ changes)) ∧
    (items = s.shown (keyIn space name) ++ changes →
      (∀ claim, items.getLast? = some (.applied claim) ↔
        s'.claim? (keyIn space name) = some claim) ∧
      (items.getLast? = some .deleted ∨ items = [] ↔ s'.claim? (keyIn space name) = none)) := by
  have faithful := course.faithful (faithful_begun s space name goes_on)
  obtain ⟨w, n, -, -, split⟩ := faithful.watched
  have start : items <+: s.shown (keyIn space name) ++ changes := ⟨_, split⟩
  refine ⟨start, fun keeps => ?_, fun drained => ?_⟩
  · obtain ⟨answer, -⟩ := faithful.poll_eq keeps
    refine ⟨answer, ?_⟩
    rw [answer]
    constructor
    · intro quiet
      refine start.eq_of_length_le (List.drop_eq_nil_iff.mp ?_)
      generalize List.drop _ _ = rest at quiet
      cases rest with
      | nil => rfl
      | cons event rest => cases quiet
    · intro drained
      rw [← drained, List.drop_length]
      rfl
  · have stored := faithful.stored
    rw [← drained] at stored
    rw [stored]
    obtain rfl | ⟨before, last, rfl⟩ := List.eq_nil_or_concat' items
    · exact ⟨fun claim => ⟨nofun, nofun⟩, iff_of_true (.inr rfl) rfl⟩
    · rw [List.getLast?_concat]
      cases last with
      | applied claim => simp [ClaimEvent.state]
      | deleted => simp [ClaimEvent.state]

end Cluster

namespace Sample

/-- A claim that is to be watched. -/
def data : Claim := claim "apps" "data" "u" "hybrid"

end Sample

/-- A claim that is created and then bound is seen in both states. -/
theorem sample_watched :
    ∃ changes items s', Cluster.Course (keyIn "apps" "data") ⟨0⟩
        (({} : Cluster).watchClaim "apps" "data").2 changes items s' ∧
      items = [.applied Sample.data, .applied (Cluster.boundClaim Sample.data)] ∧
      (s'.poll ⟨0⟩).1 = .quiet ∧
      s'.claim? (keyIn "apps" "data") = some (Cluster.boundClaim Sample.data) := by
  have start : Cluster.Course (keyIn "apps" "data") ⟨0⟩
    (({} : Cluster).watchClaim "apps" "data").2 [] [] _ := .begun
  have bound := (start.operated (.call (.createClaim Sample.data))).operated
    (.bind (keyIn "apps" "data"))
  have course := (bound.polled (by decide +kernel)).polled (by decide +kernel)
  obtain ⟨-, next, drained⟩ := Cluster.watch_faithful (s := {}) rfl course
  refine ⟨_, _, _, course, by decide +kernel, ?_, ?_⟩
  · exact (next (by decide +kernel)).2.mpr (by decide +kernel)
  · exact ((drained (by decide +kernel)).1 _).mp (by decide +kernel)

end VolumeHandover
