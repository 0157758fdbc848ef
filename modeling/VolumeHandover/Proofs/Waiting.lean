import VolumeHandover.Proofs.Calls
import VolumeHandover.Proofs.Outlines
import VolumeHandover.Proofs.Resumption

set_option autoImplicit false

/-! # Waiting for a claim that is left alone once it is bound

If the others leave a bound claim and its volume alone (`LeavesBound`), the bound claim that a
watch delivers is the one that is stored: whatever bound version a watch has still to deliver is
the present one (`Current`), from the beginning of the watch on. This is a case of what can be
said of a delivered claim in general (`Tracks`).
-/

namespace VolumeHandover

namespace Cluster

variable {key : String} {number : Nat} {s s' : Cluster}

/-- A step that watches learn of, and that leaves the claim under a key and its volume alone if
the claim is bound. -/
structure LeavesBound (key : String) (s s' : Cluster) : Prop where
  reports : Reports key s s'
  claim : ∀ claim, s.claim? key = some claim → claim.isBound = true → s'.claim? key = some claim
  volume : ∀ claim name, s.claim? key = some claim → claim.isBound = true →
    claim.volumeName? = some name → s'.volume? name = s.volume? name

/-! ## What is known of a claim that is delivered -/

/-- The bound claims that a watch has still to deliver are in a relation to the cluster. -/
def Tracks (rel : Claim → Cluster → Prop) (key : String) (number : Nat) (s : Cluster) : Prop :=
  ∃ w, s.watches[number]? = some w ∧ w.key = key ∧
    ∀ claim, w.Offers s.events claim → claim.isBound = true → rel claim s

variable {rel : Claim → Cluster → Prop}

/-- A watch begins with the claim as it is. -/
theorem tracks_watchClaim {space name : String} (named : keyIn space name = key)
    (stored : ∀ claim, s.claim? key = some claim → claim.isBound = true →
      rel claim (s.watchClaim space name).2) :
    Tracks rel key (s.watchClaim space name).1.number (s.watchClaim space name).2 := by
  have pending := pending_watchClaim (p := fun claim => s.claim? key = some claim) named
    fun claim stored => stored
  obtain ⟨w, hw, hk, offers⟩ := pending.watch
  exact ⟨w, hw, hk, fun claim offer => stored claim (offers claim offer)⟩

theorem Tracks.step (h : s.Tracks rel key number) (reports : Reports key s s')
    (keeps : ∀ claim, claim.isBound = true → rel claim s → rel claim s')
    (shown : ∀ claim, claim.isBound = true → s'.claim? key = some claim → rel claim s') :
    s'.Tracks rel key number := by
  obtain ⟨w, hw, hk, offers⟩ := h
  obtain ⟨w', hw', advances⟩ := reports.watches number w hw
  obtain ⟨more, events, news⟩ := reports.events
  refine ⟨w', hw', advances.key.trans hk, fun claim offer bound => ?_⟩
  rw [events] at offer
  -- what is offered was offered before, or it is an event of this step, which shows the claim as
  -- the step leaves it
  rcases Subscription.offers_append (advances.offers offer) with old | new
  · exact keeps claim bound (offers claim old bound)
  · rw [hk] at new
    exact shown claim bound (news claim new)

theorem Tracks.delivered {watch : Watch} {timeout : Duration} {bound : BoundClaim}
    (h : s.Tracks rel key watch.number)
    (serves : s.Serves ⟨.awaitBound watch timeout, .decided (.bound bound)⟩ s') :
    rel bound.val s := by
  cases serves with
  | awaited read honest =>
      obtain ⟨w, hw, offer⟩ := honest bound rfl
      obtain ⟨w', hw', -, offers⟩ := h
      rw [Option.some.inj (hw'.symm.trans hw)] at offers
      exact offers bound.val offer bound.property

/-- The bound claim that a watch has still to deliver is the one that is stored. -/
def Current (key : String) (number : Nat) (s : Cluster) : Prop :=
  s.Tracks (fun claim s => s.claim? key = some claim) key number

theorem current_watchClaim {space name : String} (named : keyIn space name = key) :
    Current key (s.watchClaim space name).1.number (s.watchClaim space name).2 :=
  tracks_watchClaim named fun _ stored _ => stored

theorem Current.step (h : s.Current key number) (reports : Reports key s s')
    (keeps : ∀ claim, s.claim? key = some claim → claim.isBound = true →
      s'.claim? key = some claim) : s'.Current key number :=
  Tracks.step h reports (fun claim bound stored => keeps claim stored bound)
    fun _ _ stored => stored

theorem Current.delivered {watch : Watch} {timeout : Duration} {bound : BoundClaim}
    (h : s.Current key watch.number)
    (serves : s.Serves ⟨.awaitBound watch timeout, .decided (.bound bound)⟩ s') :
    s'.claim? key = some bound.val := by
  have stored := Tracks.delivered h serves
  obtain ⟨watches, rfl⟩ := serves.eq_of_not_call fun _ => Request.noConfusion
  exact stored

end Cluster

/-! ## The wait in an outline -/

variable {k : Contract} {key : String}

/-- The others leave a bound claim alone, and nothing is owed but by deletions of claims. -/
structure Contract.Watchful (k : Contract) (key : String) : Prop where
  leaves : ∀ s s', k.others s s' → s.LeavesBound key s'
  spares : ∀ s (x : Exchange) s', x.request.deletesClaim = false → k.owed ⟨s, x, s'⟩

namespace Assertion

/-- An assertion about the objects in the cluster. -/
def OfObjects (p : Assertion k) : Prop :=
  ∀ s s' : Cluster, s'.objects = s.objects → p s → p s'

/-- Besides, a watch is current. -/
def watching (p : Assertion k) (watchful : k.Watchful key) (watch : Watch) : Assertion k where
  holds s := p s ∧ s.Current key watch.number
  stable s s' act h := by
    have leaves := watchful.leaves s s' act
    exact ⟨p.stable s s' act h.1, h.2.step leaves.reports leaves.claim⟩

/-- Besides, a bound claim is stored. -/
def holding (p : Assertion k) (watchful : k.Watchful key) (bound : BoundClaim) : Assertion k where
  holds s := p s ∧ s.claim? key = some bound.val
  stable s s' act h := by
    have leaves := watchful.leaves s s' act
    exact ⟨p.stable s s' act h.1, leaves.claim bound.val h.2 bound.property⟩

end Assertion

variable {p : Assertion k} {bad : Error → Assertion k}

theorem answers_watchClaim (watchful : k.Watchful key) {space name : String}
    (named : keyIn space name = key) (ofObjects : p.OfObjects) (fails : ∀ e s, p s → bad e s) :
    Answers p (.call (.watchClaim space name)) fun answer =>
      Ends (p.watching watchful) bad answer := by
  intro s answer s' hs serves _
  refine ⟨watchful.spares s _ s' rfl, ?_⟩
  have objects : s'.objects = s.objects := by
    rcases serves.call_state with rfl | rfl
    · rfl
    · rfl
  cases answer with
  | error e => exact fails e s' (ofObjects s s' objects hs)
  | ok watch =>
      obtain ⟨hw, rfl⟩ := Prod.mk.inj serves.call_eq
      obtain rfl := Except.ok.inj hw
      exact ⟨ofObjects s _ objects hs, Cluster.current_watchClaim named⟩

theorem answers_awaitBound (watchful : k.Watchful key) (watch : Watch) (name : String)
    (timeout : Duration) (ofObjects : p.OfObjects) (fails : ∀ e s, p s → bad e s) :
    Answers (p.watching watchful watch) (.awaitBound watch timeout) fun awaited =>
      Ends (p.holding watchful) bad (awaited.result name timeout) := by
  intro s awaited s' hs serves _
  refine ⟨watchful.spares s _ s' rfl, ?_⟩
  have objects : s'.objects = s.objects := by
    obtain ⟨watches, rfl⟩ := serves.eq_of_not_call fun _ => Request.noConfusion
    rfl
  have kept : p s' := ofObjects s s' objects hs.1
  show Ends (p.holding watchful) bad (awaited.result name timeout) s'
  cases hr : awaited.result name timeout with
  | error e => exact fails e s' kept
  | ok bound =>
      have delivered := (Provision.result_eq_ok_iff name timeout bound awaited).mpr hr
      rw [delivered] at serves
      exact ⟨kept, hs.2.delivered serves⟩

end VolumeHandover
