import VolumeHandover.Proofs.Stages

set_option autoImplicit false

/-! # Contracts of programs

A program shares its cluster with others, so what it knows of the cluster has to survive what
these do. A `Contract` says what the others may do, what is assumed of the answers, and what every
occurrence owes; its `Assertion`s are what the others keep. `Triple pre p post` says of `p`, begun
where `pre` holds, that its occurrences fulfil the contract, and that `post` holds of its result
and the cluster if it stops. There is a rule for each way in which programs are put together:
requests, binds, binds of attempts, and calls that are repeated while they fail.
-/

namespace VolumeHandover

variable {α β : Type}

/-- What a program counts on, and what it owes. -/
structure Contract where
  /-- What the others may do. -/
  others : Cluster → Cluster → Prop
  /-- What is assumed of every occurrence. -/
  assumed : Occurrence → Prop := fun _ => True
  /-- What every occurrence has to fulfil. -/
  owed : Occurrence → Prop := fun _ => True

/-- A statement about the cluster that the others keep. -/
structure Assertion (k : Contract) where
  holds : Cluster → Prop
  stable : ∀ s s', k.others s s' → holds s → holds s'

namespace Assertion

variable {k : Contract}

instance : CoeFun (Assertion k) fun _ => Cluster → Prop := ⟨holds⟩

/-- The assertion that says nothing. -/
def any : Assertion k := ⟨fun _ => True, fun _ _ _ _ => trivial⟩

/-- An assertion together with a fact that does not depend on the cluster. -/
def given (fact : Prop) (p : Assertion k) : Assertion k :=
  ⟨fun s => fact ∧ p s, fun s s' act h => ⟨h.1, p.stable s s' act h.2⟩⟩

theorem after (p : Assertion k) {s s' : Cluster} (h : History k.others s [] s') (hs : p s) :
    p s' :=
  h.invariant hs p.stable (by simp)

end Assertion

variable {k : Contract}

theorem Cluster.Serves.of_isLookup {s s' : Cluster} {x : Exchange} (h : s.Serves x s')
    (hx : x.isLookup = true) : s' = s ∧ ∃ l answer, x = ⟨.find l, answer⟩ := by
  cases h with
  | found l answer => exact ⟨rfl, l, answer, rfl⟩
  | answered c | refused c e | lost c e | awaited read honest | paused d | clock time
  | delegated options answer => cases hx

/-- While things are looked up, every assertion is kept. -/
theorem History.lookups {s s' : Cluster} {t : List Occurrence}
    (history : History k.others s t s') (looks : ∀ x ∈ t, x.exchange.isLookup = true)
    (owed : ∀ s l answer, k.owed ⟨s, ⟨.find l, answer⟩, s⟩) :
    (∀ x ∈ t, k.owed x) ∧ ∀ p : Assertion k, p s → p s' := by
  constructor
  · intro x hx
    obtain ⟨t₁, t₂, rfl⟩ := List.append_of_mem hx
    obtain ⟨s₁, -, rest⟩ := history.split
    obtain ⟨same, l, answer, exchange⟩ := rest.uncons.2.1.of_isLookup (looks x hx)
    obtain ⟨before, exchange_x, after⟩ := x
    cases exchange
    cases same
    exact owed before l answer
  · intro p hs
    refine history.invariant hs p.stable fun x hx serves before => ?_
    rw [(serves.of_isLookup (looks x hx)).1]
    exact before

/-- A request that is put to a cluster with `pre` is answered such that the occurrence is as
owed, and `post` holds of the answer and the cluster afterwards. -/
def Answers (pre : Assertion k) (r : Request) (post : r.Answer → Assertion k) : Prop :=
  ∀ s answer s', pre s → s.Serves ⟨r, answer⟩ s' → k.assumed ⟨s, ⟨r, answer⟩, s'⟩ →
    k.owed ⟨s, ⟨r, answer⟩, s'⟩ ∧ post answer s'

/-! ## Programs -/

/-- From a state with `pre` on, the occurrences of the program fulfil the contract, and its result
and the state in which it stops have `post`. -/
def Triple (pre : Assertion k) (p : Program α) (post : α → Assertion k) : Prop :=
  ∀ s t s' o, pre s → History k.others s t s' → (∀ x ∈ t, k.assumed x) →
    p.Traces (t.map (·.exchange)) o → (∀ x ∈ t, k.owed x) ∧ ∀ a, o = some a → post a s'

namespace Triple

variable {pre : Assertion k} {p : Program α} {post : α → Assertion k}

theorem done (a : α) (h : ∀ s, pre s → post a s) : Triple pre (.done a) post := by
  intro s t s' o hs history _ run
  obtain ⟨empty, ho⟩ := Program.traces_done_iff.mp run
  obtain rfl := List.map_eq_nil_iff.mp empty
  refine ⟨by simp, fun b hb => ?_⟩
  rcases ho with rfl | rfl
  · cases hb
  · rw [← Option.some.inj hb]
    exact (post a).after history (h s hs)

theorem ask {r : Request} {next : r.Answer → Program α} {mid : r.Answer → Assertion k}
    (answers : Answers pre r mid)
    (rest : ∀ answer, Triple (mid answer) (next answer) post) : Triple pre (.ask r next) post := by
  intro s t s' o hs history assumed run
  rcases Program.traces_ask_iff.mp run with ⟨empty, rfl⟩ | ⟨answer, h, exchanges, next_run⟩
  · obtain rfl := List.map_eq_nil_iff.mp empty
    exact ⟨by simp, by simp⟩
  · obtain ⟨x, t, rfl, hx, rfl⟩ := List.map_eq_cons_iff.mp exchanges
    obtain ⟨gap, serves, history⟩ := history.uncons
    have before : pre x.before := pre.after gap hs
    obtain ⟨before_x, exchange, after_x⟩ := x
    cases hx
    obtain ⟨owed, after⟩ := answers _ _ _ before serves (assumed _ List.mem_cons_self)
    obtain ⟨owed_rest, result⟩ :=
      rest answer _ t s' o after history (fun y hy => assumed y (.tail _ hy)) next_run
    refine ⟨fun y hy => ?_, result⟩
    rcases List.mem_cons.mp hy with rfl | hy
    · exact owed
    · exact owed_rest y hy

theorem request {r : Request} {post : r.Answer → Assertion k}
    (answers : Answers pre r post) :
    Triple pre (Program.request r) post :=
  ask answers fun answer => done answer fun _ h => h

theorem bind {mid : α → Assertion k} {f : α → Program β} {post : β → Assertion k}
    (first : Triple pre p mid) (rest : ∀ a, Triple (mid a) (f a) post) :
    Triple pre (p >>= f) post := by
  intro s t s' o hs history assumed run
  -- the program is interrupted in its first part, or the history splits where the second begins
  rcases Program.traces_bind run with
    ⟨first_run, rfl⟩ | ⟨a, h₁, h₂, first_run, rest_run, exchanges⟩
  · exact ⟨(first s t s' none hs history assumed first_run).1, by simp⟩
  · obtain ⟨t₁, t₂, rfl, rfl, rfl⟩ := List.map_eq_append_iff.mp exchanges
    obtain ⟨s₁, history₁, history₂⟩ := history.split
    obtain ⟨owed₁, mid_holds⟩ := first s t₁ s₁ (some a) hs history₁
      (fun x hx => assumed x (List.mem_append_left _ hx)) first_run
    obtain ⟨owed₂, result⟩ := rest a s₁ t₂ s' o (mid_holds a rfl) history₂
      (fun x hx => assumed x (List.mem_append_right _ hx)) rest_run
    refine ⟨fun x hx => ?_, result⟩
    rcases List.mem_append.mp hx with hx | hx
    · exact owed₁ x hx
    · exact owed₂ x hx

/-- A stronger condition in front, or a weaker one behind. -/
theorem weaken {pre' : Assertion k} {post' : α → Assertion k} (h : Triple pre' p post')
    (strong : ∀ s, pre s → pre' s) (weak : ∀ a s, post' a s → post a s) : Triple pre p post := by
  intro s t s' o hs history assumed run
  obtain ⟨owed, result⟩ := h s t s' o (strong s hs) history assumed run
  exact ⟨owed, fun a ha => weak a s' (result a ha)⟩

end Triple

/-! ## Attempts -/

/-- How an attempt ends: with a value, or with an error. -/
def Ends (good : α → Assertion k) (bad : Error → Assertion k) : Except Error α → Assertion k
  | .ok a => good a
  | .error e => bad e

/-- How a tolerated answer ends, depending on what the answer was. -/
theorem ends_tolerate {reached : Error → Bool} {answer : Except Error α}
    {good : Unit → Assertion k} {bad : Error → Assertion k} {s : Cluster}
    (ok : ∀ a, answer = .ok a → good () s)
    (tolerated : ∀ e, answer = .error e → reached e = true → good () s)
    (failed : ∀ e, answer = .error e → reached e = false → bad e s) :
    Ends good bad (Provision.tolerate reached answer) s := by
  cases answer with
  | ok a => exact ok a rfl
  | error e =>
      show Ends good bad (if reached e then .ok () else .error e) s
      by_cases he : reached e = true
      · rw [if_pos he]
        exact tolerated e rfl he
      · rw [if_neg he]
        exact failed e rfl (Bool.eq_false_iff.mpr he)

namespace Triple

open Provision

variable {pre : Assertion k} {good : α → Assertion k} {bad : Error → Assertion k}

theorem attempt {x : Attempt α} {f : α → Attempt β} {mid : α → Assertion k}
    {good : β → Assertion k} (first : Triple pre x.run (Ends mid bad))
    (rest : ∀ a, Triple (mid a) (f a).run (Ends good bad)) :
    Triple pre (x >>= f).run (Ends good bad) := by
  rw [ExceptT.run_bind]
  refine first.bind fun result => ?_
  cases result with
  | ok a => exact rest a
  | error e => exact done (Except.error e) fun _ h => h

theorem succeed {a : α} (h : ∀ s, pre s → good a s) :
    Triple pre (pure a : Attempt α).run (Ends good bad) := done (Except.ok a) h

theorem fail {e : Error} (h : ∀ s, pre s → bad e s) :
    Triple pre (throw e : Attempt α).run (Ends good bad) := done (Except.error e) h

/-- A call with whose value the attempt goes on. -/
theorem call {c : ApiCall} {good : c.Answer → Assertion k}
    (answers : Answers pre (.call c) fun answer => Ends good bad answer) :
    Triple pre (Provision.call c).run (Ends good bad) := request answers

/-- A call with errors that are as good as a success. -/
theorem tolerated {c : ApiCall} {reached : Error → Bool} {good : Unit → Assertion k}
    (answers : Answers pre (.call c) fun answer => Ends good bad (tolerate reached answer)) :
    Triple pre (ExceptT.mk (Program.ask (.call c) fun answer =>
      .done (tolerate reached answer))).run (Ends good bad) :=
  ask answers fun _ => done _ fun _ h => h

/-- A call that is made again while it fails. The assertion in front of it may depend on how many
attempts are left. -/
theorem retry {config : Config} {operation : String} {c : ApiCall} {pre : Nat → Assertion k}
    {fault : Error → Prop} {good : Unit → Assertion k}
    (pauses : ∀ s interval, k.owed ⟨s, ⟨.pause interval, ()⟩, s⟩)
    (answers : ∀ left, Answers (pre (left + 1)) (.call c) fun answer =>
      Ends good (fun e => .given (fault e) (pre left)) (tolerate Error.isNotFound answer))
    (exhausted : ∀ e s, fault e → pre 0 s →
      bad (.retryExhausted operation config.cleanupRetry.attempts e.message) s) :
    Triple (pre config.cleanupRetry.attempts) (deleteWithRetry config operation c).run
      (Ends good bad) := by
  have further (left n : Nat) : Triple (pre (left + 1))
      (config.cleanupRetry.runFrom (fun d => Program.request (.pause d)) operation
        (fun _ => Program.ask (.call c) fun answer => .done (tolerate Error.isNotFound answer))
        left n) (Ends good bad) := by
    -- by the attempts that are left; each of them uses up one step of the assertion in front
    induction left generalizing n with
    | zero =>
        unfold RetryPolicy.runFrom
        refine ask (answers 0) fun answer => ?_
        dsimp only [Program.bind]
        cases tolerate Error.isNotFound answer with
        | ok value => exact done (Except.ok ()) fun _ h => h
        | error e => exact done (Except.error _) fun s h => exhausted e s h.1 h.2
    | succ left ih =>
        unfold RetryPolicy.runFrom
        refine ask (answers (left + 1)) fun answer => ?_
        dsimp only [Program.bind]
        cases tolerate Error.isNotFound answer with
        | ok value => exact done (Except.ok ()) fun _ h => h
        | error e =>
            -- nothing happens to the cluster in the pause before the next attempt
            have pause : Answers (Assertion.given (fault e) (pre (left + 1)))
                (.pause config.cleanupRetry.interval) fun _ => pre (left + 1) := by
              intro s answer s' hs serves _
              cases serves with
              | paused => exact ⟨pauses s _, hs.2⟩
            exact ask pause fun _ => ih (n + 1)
  have positive : config.cleanupRetry.attempts = config.cleanupRetry.attempts - 1 + 1 := by
    unfold RetryPolicy.attempts
    omega
  have all := further (config.cleanupRetry.attempts - 1) 1
  rw [← positive] at all
  exact all

end Triple

end VolumeHandover
