import VolumeHandover.BindWait

set_option autoImplicit false

/-! # The first decision in time

A wait goes from look to look and sleeps in between, and yet how it ends depends on one thing only:
the first item of the feed that decides, or else the end of the watch, and when it arrives
(`Feed.await_eq`). If it arrives by the deadline, the wait ends with it at that moment; otherwise
the time runs out (`waitForBound_decides`). What comes before it does not decide, and what comes
after it is never looked at.
-/

namespace VolumeHandover

/-- An item settles the wait for the claim `name` with a result. -/
inductive Settles (name : String) : WatchItem → Except Error BoundClaim → Prop where
  | bound (claim : Claim) (isBound : claim.isBound = true) :
      Settles name (.ok (.applied claim)) (.ok ⟨claim, isBound⟩)
  | deleted : Settles name (.ok .deleted) (.error (.claimDeleted name))
  | failed (e : Error) : Settles name (.error e) (.error e)

/-- An item settles the wait if it decides something, with the result of that decision. -/
theorem settles_iff {name : String} {item : WatchItem} {result : Except Error BoundClaim}
    (timeout : Duration) :
    Settles name item result ↔
      ∃ decision, decision? item = some decision ∧
        (Awaited.decided decision).result name timeout = result := by
  constructor
  case mp =>
    intro settles
    cases settles with
    | bound claim isBound => exact ⟨.bound ⟨claim, isBound⟩, dif_pos isBound, rfl⟩
    | deleted => exact ⟨.deleted, rfl, rfl⟩
    | failed e => exact ⟨.failed e, rfl, rfl⟩
  case mpr =>
    rintro ⟨decision, decides, rfl⟩
    match item with
    | .ok (.applied claim) =>
        obtain ⟨isBound, same⟩ := Option.dite_none_right_eq_some.mp decides
        cases same
        exact .bound claim isBound
    | .ok .deleted =>
        cases decides
        exact .deleted
    | .error e =>
        cases decides
        exact .failed e

/-- Whatever else changes about a claim, it settles nothing as long as it is not bound. -/
theorem not_settles_of_unbound {name : String} {claim : Claim} (unbound : claim.isBound = false)
    (result : Except Error BoundClaim) : ¬ Settles name (.ok (.applied claim)) result := by
  intro settles
  cases settles with
  | bound _ isBound => exact Bool.false_ne_true (unbound.symm.trans isBound)

theorem undecided_of_not_settles {name : String} {item : WatchItem}
    (nothing : ∀ result, ¬ Settles name item result) : decision? item = none :=
  Option.eq_none_iff_forall_ne_some.mpr fun decision decides =>
    nothing _ ((settles_iff default).mpr ⟨decision, decides, rfl⟩)

namespace Feed

/-! ## What settles a feed -/

/-- The items arrive one after the other, and the watch ends behind them. -/
structure InOrder (feed : Feed) : Prop where
  items : feed.items.Pairwise (·.1 ≤ ·.1)
  closing : ∀ entry ∈ feed.items, ∀ time ∈ feed.closing, entry.1 ≤ time

/-- How the first item that decides, or else the end of the watch, settles a wait, and when it
arrives. -/
def settling? (feed : Feed) : Option (Awaited × Nat) :=
  (feed.items.findSome? fun (time, item) =>
    (decision? item).map fun decision => (.decided decision, time)).or
      (feed.closing.map fun time => (.closed, time))

variable {closing : Option Nat} {time now : Nat} {item : WatchItem}
  {items : List (Nat × WatchItem)}

theorem settling?_nil : settling? ⟨[], closing⟩ = closing.map fun time => (.closed, time) := rfl

theorem settling?_cons_some {decision : Decision} (decides : decision? item = some decision) :
    settling? ⟨(time, item) :: items, closing⟩ = some (.decided decision, time) := by
  simp [settling?, decides]

theorem settling?_cons_none (undecided : decision? item = none) :
    settling? ⟨(time, item) :: items, closing⟩ = settling? ⟨items, closing⟩ := by
  simp [settling?, undecided]

theorem settling?_append {before after : List (Nat × WatchItem)}
    (undecided : ∀ entry ∈ before, decision? entry.2 = none) :
    settling? ⟨before ++ after, closing⟩ = settling? ⟨after, closing⟩ := by
  induction before with
  | nil => rfl
  | cons head rest ih =>
      rw [List.cons_append, settling?_cons_none (undecided head List.mem_cons_self)]
      exact ih fun entry mem => undecided entry (List.mem_cons_of_mem head mem)

theorem InOrder.tail (ordered : InOrder ⟨(time, item) :: items, closing⟩) :
    InOrder ⟨items, closing⟩ where
  items := ordered.items.of_cons
  closing entry mem := ordered.closing entry (List.mem_cons_of_mem _ mem)

/-- What settles a feed does not arrive before what arrives first. -/
theorem InOrder.next?_le {feed : Feed} {awaited : Awaited} (ordered : feed.InOrder)
    (settling : feed.settling? = some (awaited, time)) : ∃ first ∈ feed.next?, first ≤ time := by
  obtain ⟨items, closing⟩ := feed
  induction items with
  | nil =>
      rw [settling?_nil, Option.map_eq_some_iff] at settling
      obtain ⟨closes, closing, same⟩ := settling
      cases same
      exact ⟨_, closing, Nat.le_refl _⟩
  | cons head rest ih =>
      refine ⟨head.1, rfl, ?_⟩
      cases decides : decision? head.2 with
      | some decision =>
          rw [settling?_cons_some decides] at settling
          cases settling
          exact Nat.le_refl _
      | none =>
          rw [settling?_cons_none decides] at settling
          obtain ⟨second, arrives, early⟩ := ih ordered.tail settling
          cases rest with
          | nil => exact Nat.le_trans (ordered.closing _ List.mem_cons_self _ arrives) early
          | cons next others =>
              cases arrives
              exact Nat.le_trans (List.rel_of_pairwise_cons ordered.items List.mem_cons_self) early

/-! ## One look -/

/-- A look that settles the wait has found what settles the feed. -/
theorem settling?_of_settled {feed : Feed} {awaited : Awaited}
    (look : feed.look now = .settled awaited) :
    ∃ time, feed.settling? = some (awaited, time) ∧ time ≤ now := by
  obtain ⟨items, closing⟩ := feed
  change take now closing items = .settled awaited at look
  fun_induction take now closing items with
  | case1 closed =>
      cases look
      obtain ⟨time, closes, arrived⟩ := (Option.any_eq_true _ _).mp closed
      exact ⟨time, congrArg (Option.map _) closes, of_decide_eq_true arrived⟩
  | case2 later => cases look
  | case3 time item others arrived decision decides =>
      cases look
      exact ⟨time, settling?_cons_some decides, arrived⟩
  | case4 time item others arrived undecided ih =>
      rw [settling?_cons_none undecided]
      exact ih look
  | case5 time item others later => cases look

/-- A look that does not settle the wait leaves what settles the feed. -/
theorem settling?_of_waiting {feed rest : Feed} (look : feed.look now = .waiting rest) :
    rest.settling? = feed.settling? ∧ (feed.InOrder → rest.InOrder) := by
  obtain ⟨items, closing⟩ := feed
  change take now closing items = .waiting rest at look
  fun_induction take now closing items with
  | case1 closed => cases look
  | case2 later =>
      cases look
      exact ⟨rfl, id⟩
  | case3 time item others arrived decision decides => cases look
  | case4 time item others arrived undecided ih =>
      rw [settling?_cons_none undecided]
      exact (ih look).imp_right (· ∘ InOrder.tail)
  | case5 time item others later =>
      cases look
      exact ⟨rfl, id⟩

/-- What settles a feed arrives after a look that does not settle the wait, and not before the
moment at which the next look is due. -/
theorem InOrder.next_look_le {feed rest : Feed} {awaited : Awaited} (ordered : feed.InOrder)
    (look : feed.look now = .waiting rest) (settling : feed.settling? = some (awaited, time)) :
    ∃ first, rest.next? = some first ∧ now < first ∧ first ≤ time := by
  obtain ⟨same, kept⟩ := settling?_of_waiting look
  obtain ⟨first, arrives, early⟩ := (kept ordered).next?_le (same.trans settling)
  exact ⟨first, arrives, lt_next? look first arrives, early⟩

/-! ## The whole wait -/

variable {feed rest : Feed} {awaited : Awaited} {deadline : Nat}

theorem await_of_settled (look : feed.look now = .settled awaited) :
    feed.await now deadline = (awaited, now) := by
  rw [await]
  split
  next same => cases look.symm.trans same; rfl
  next other => cases look.symm.trans other

theorem await_of_waiting (look : feed.look now = .waiting rest) :
    feed.await now deadline =
      if deadline ≤ now then (.timedOut, now)
      else rest.await (min (rest.next?.getD deadline) deadline) deadline := by
  rw [await]
  split
  next other => cases look.symm.trans other
  next same => cases look.symm.trans same; rfl

/-- How a wait ends that goes on until `deadline`, given what settles the feed. -/
def ending (now deadline : Nat) : Option (Awaited × Nat) → Awaited × Nat
  | some (awaited, time) =>
      if time ≤ deadline then (awaited, max now time) else (.timedOut, deadline)
  | none => (.timedOut, deadline)

theorem ending_of_late {settling : Option (Awaited × Nat)}
    (late : ∀ awaited time, settling = some (awaited, time) → deadline < time) :
    ending now deadline settling = (.timedOut, deadline) := by
  match settling with
  | none => rfl
  | some (awaited, time) => exact if_neg (Nat.not_le_of_lt (late awaited time rfl))

/-- To sleep until something arrives, and no longer than until the deadline, does not change how
the wait ends. -/
theorem ending_of_sleep {settling : Option (Awaited × Nat)} {next : Option Nat}
    (waits : ∀ awaited time, settling = some (awaited, time) →
      ∃ first, next = some first ∧ now < first ∧ first ≤ time) :
    ending (min (next.getD deadline) deadline) deadline settling = ending now deadline settling := by
  match settling with
  | none => rfl
  | some (awaited, time) =>
      obtain ⟨first, rfl, later, before⟩ := waits awaited time rfl
      by_cases inTime : time ≤ deadline
      case pos =>
        have arrival : max (min first deadline) time = max now time := by omega
        rw [ending, ending, if_pos inTime, if_pos inTime, Option.getD_some, arrival]
      case neg => rw [ending, ending, if_neg inTime, if_neg inTime]

/-- **A wait ends with what settles the feed**, at once or when it arrives, unless this is after
the deadline. -/
theorem await_eq (feed : Feed) (now deadline : Nat) (ordered : feed.InOrder)
    (early : now ≤ deadline) :
    feed.await now deadline = ending now deadline feed.settling? := by
  induction feed, now using Feed.await.induct deadline with
  | case1 feed now awaited look =>
      obtain ⟨time, settling, arrived⟩ := settling?_of_settled look
      rw [await_of_settled look, settling, ending, if_pos (Nat.le_trans arrived early),
        Nat.max_eq_left arrived]
  | case2 feed now rest look elapsed =>
      have late : ∀ awaited time, feed.settling? = some (awaited, time) → deadline < time := by
        intro awaited time settling
        obtain ⟨first, -, later, before⟩ := ordered.next_look_le look settling
        omega
      rw [await_of_waiting look, if_pos elapsed, ending_of_late late,
        Nat.le_antisymm early elapsed]
  | case3 feed now rest look soon ih =>
      obtain ⟨same, kept⟩ := settling?_of_waiting look
      rw [await_of_waiting look, if_neg soon, ih (kept ordered) (Nat.min_le_right _ _), same]
      exact ending_of_sleep fun awaited time => ordered.next_look_le look

end Feed

/-! ## Waiting for a claim -/

theorem waitForBound_of_settling {feed : Feed} (ordered : feed.InOrder) (name : String)
    (timeout : Duration) {awaited : Awaited} {time : Nat}
    (settling : feed.settling? = some (awaited, time)) :
    waitForBound feed name timeout =
      if time ≤ timeout.ticks then (awaited.result name timeout, time)
      else (.error (.bindTimeout name timeout), timeout.ticks) := by
  rw [waitForBound, feed.await_eq 0 timeout.ticks ordered (Nat.zero_le _), settling, Feed.ending]
  by_cases inTime : time ≤ timeout.ticks
  case pos => rw [if_pos inTime, if_pos inTime, Nat.zero_max, Prod.map_apply, id_eq]
  case neg => rw [if_neg inTime, if_neg inTime, Prod.map_apply, id_eq, Awaited.result]

theorem waitForBound_of_silence {feed : Feed} (ordered : feed.InOrder) (name : String)
    (timeout : Duration) (silent : feed.settling? = none) :
    waitForBound feed name timeout = (.error (.bindTimeout name timeout), timeout.ticks) := by
  rw [waitForBound, feed.await_eq 0 timeout.ticks ordered (Nat.zero_le _), silent, Feed.ending,
    Prod.map_apply, id_eq, Awaited.result]

/-- **The first decision in time ends the wait.** If a bound claim, a removal or an error arrives
no later than the timeout, rounded up to whole milliseconds, with only other items before it, the
wait yields the claim, or the error, when it arrives, whatever comes behind it. If there is no such
item, the wait fails with the end of the watch when that comes in time. In all other cases it fails
at the deadline. -/
theorem waitForBound_decides (feed : Feed) (name : String) (timeout : Duration)
    (ordered : feed.InOrder) :
    (∀ before time item after result, feed.items = before ++ (time, item) :: after →
      (∀ entry ∈ before, ∀ other, ¬ Settles name entry.2 other) → Settles name item result →
      waitForBound feed name timeout =
        if time ≤ timeout.ticks then (result, time)
        else (.error (.bindTimeout name timeout), timeout.ticks)) ∧
    ((∀ entry ∈ feed.items, ∀ other, ¬ Settles name entry.2 other) →
      (∀ time, feed.closing = some time →
        waitForBound feed name timeout =
          if time ≤ timeout.ticks then (.error (.watchClosed name), time)
          else (.error (.bindTimeout name timeout), timeout.ticks)) ∧
      (feed.closing = none →
        waitForBound feed name timeout =
          (.error (.bindTimeout name timeout), timeout.ticks))) := by
  obtain ⟨items, closing⟩ := feed
  constructor
  case left =>
    rintro before time item after result rfl undecided settles
    obtain ⟨decision, decides, same⟩ := (settles_iff timeout).mp settles
    have settling : Feed.settling? ⟨before ++ (time, item) :: after, closing⟩ =
        some (.decided decision, time) := by
      rw [Feed.settling?_append fun entry mem => undecided_of_not_settles (undecided entry mem),
        Feed.settling?_cons_some decides]
    rw [waitForBound_of_settling ordered name timeout settling, same]
  case right =>
    intro undecided
    have settling : Feed.settling? ⟨items, closing⟩ = closing.map fun time => (.closed, time) := by
      rw [← items.append_nil, ← Feed.settling?_nil]
      exact Feed.settling?_append fun entry mem => undecided_of_not_settles (undecided entry mem)
    constructor
    · rintro time rfl
      exact waitForBound_of_settling ordered name timeout settling
    · rintro rfl
      exact waitForBound_of_silence ordered name timeout settling

namespace Sample

/-- A claim that waits for a volume. -/
def pending : Claim := { status := some { phase := some "Pending" } }

/-- A claim that got its volume. -/
def volumeBound : BoundClaim := ⟨{ status := some { phase := some "Bound" } }, by decide⟩

/-- A claim gets its volume two milliseconds after the start, and is removed later. -/
def bindingFeed : Feed where
  items := [(0, .ok (.applied pending)), (2, .ok (.applied volumeBound.val)), (9, .ok .deleted)]
  closing := some 9

/-- A watch ends while the claim waits for a volume. -/
def closingFeed : Feed where
  items := [(0, .ok (.applied pending))]
  closing := some 2

theorem pending_settles_nothing (name : String) :
    ∀ entry ∈ [(0, (Except.ok (.applied pending) : WatchItem))], ∀ result,
      ¬ Settles name entry.2 result :=
  List.forall_mem_singleton.mpr (not_settles_of_unbound rfl)

end Sample

/-- One and a half milliseconds are over with the second tick of the clock, and what comes with it
still counts; one millisecond is over before. -/
theorem sample_waits_end :
    Sample.bindingFeed.InOrder ∧ Sample.closingFeed.InOrder ∧
      waitForBound Sample.bindingFeed "data" ⟨1500000⟩ = (.ok Sample.volumeBound, 2) ∧
      waitForBound Sample.bindingFeed "data" ⟨1000000⟩ =
        (.error (.bindTimeout "data" ⟨1000000⟩), 1) ∧
      waitForBound Sample.closingFeed "data" ⟨1500000⟩ = (.error (.watchClosed "data"), 2) := by
  have binding : Sample.bindingFeed.InOrder := ⟨by decide, by decide⟩
  have closing : Sample.closingFeed.InOrder := ⟨by decide, by decide⟩
  have settles : Settles "data" (.ok (.applied _)) _ := .bound _ Sample.volumeBound.property
  have ends (timeout : Duration) := (waitForBound_decides _ "data" timeout binding).1 _ 2 _ _ _ rfl
    (Sample.pending_settles_nothing "data") settles
  exact ⟨binding, closing, ends ⟨1500000⟩, ends ⟨1000000⟩,
    ((waitForBound_decides _ "data" ⟨1500000⟩ closing).2
      (Sample.pending_settles_nothing "data")).1 2 rfl⟩

end VolumeHandover
