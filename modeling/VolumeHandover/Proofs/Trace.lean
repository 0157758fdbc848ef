import VolumeHandover.Cluster.World
import VolumeHandover.Provision
import Mathlib.Logic.Basic

set_option autoImplicit false

/-! # Traces of programs

A trace lists the exchanges of a program with its surroundings, whatever these answer. It may
be cut short at any point: `p.Traces h o` says that `p` can put the requests of `h` one after
the other, get the answers that stand there, and then either stop with the result in `o` or,
if `o` is `none`, not be followed any further. A statement about all traces of a program is
therefore one about every answer to every request, and about every moment of a run.

The lemmas split a trace where the program was put together: at a request, at a bind, and at a
bind of attempts, where an error passes over the rest. What is said of the results only, whatever
answers of some kind there are (`Program.Yields`), is put together in the same way.
-/

namespace VolumeHandover

/-- A request together with the answer to it. -/
structure Exchange where
  request : Request
  answer : request.Answer

namespace Exchange

/-- Whether an exchange is a look-up. -/
def isLookup (x : Exchange) : Bool :=
  match x.request with
  | .find _ => true
  | _ => false

/-- Whether an exchange is a pause. -/
def isPause (x : Exchange) : Bool :=
  match x.request with
  | .pause _ => true
  | _ => false

end Exchange

namespace Program

variable {α β : Type}

instance : LawfulMonad Program :=
  LawfulMonad.mk' Program (fun p => bind_done p) (fun _ _ => rfl) (fun p f g => bind_assoc p f g)

/-! ## Traces -/

/-- The program can have the exchanges of a list, and then stops with a result or is not
followed any further. -/
inductive Traces : Program α → List Exchange → Option α → Prop
  | finished (a : α) : Traces (.done a) [] (some a)
  | cut (p : Program α) : Traces p [] none
  | asked {r : Request} {next : r.Answer → Program α} {answer : r.Answer}
      {h : List Exchange} {o : Option α} (rest : Traces (next answer) h o) :
      Traces (.ask r next) (⟨r, answer⟩ :: h) o

theorem traces_done_iff {a : α} {h : List Exchange} {o : Option α} :
    (done a).Traces h o ↔ h = [] ∧ (o = none ∨ o = some a) := by
  constructor
  · intro run
    cases run with
    | finished => exact ⟨rfl, .inr rfl⟩
    | cut => exact ⟨rfl, .inl rfl⟩
  · rintro ⟨rfl, rfl | rfl⟩
    · exact .cut _
    · exact .finished a

theorem traces_ask_iff {r : Request} {next : r.Answer → Program α} {h : List Exchange}
    {o : Option α} :
    (ask r next).Traces h o ↔
      (h = [] ∧ o = none) ∨ ∃ answer h', h = ⟨r, answer⟩ :: h' ∧ (next answer).Traces h' o := by
  constructor
  · intro run
    cases run with
    | cut => exact .inl ⟨rfl, rfl⟩
    | asked rest => exact .inr ⟨_, _, rfl, rest⟩
  · rintro (⟨rfl, rfl⟩ | ⟨answer, h', rfl, rest⟩)
    · exact .cut _
    · exact .asked rest

theorem traces_done_some_iff {a b : α} {h : List Exchange} :
    (done a).Traces h (some b) ↔ h = [] ∧ a = b := by
  rw [traces_done_iff, Option.some.injEq, or_iff_right (Option.some_ne_none b)]
  exact and_congr_right' eq_comm

theorem traces_ask_some_iff {r : Request} {next : r.Answer → Program α} {h : List Exchange}
    {a : α} :
    (ask r next).Traces h (some a) ↔
      ∃ answer h', h = ⟨r, answer⟩ :: h' ∧ (next answer).Traces h' (some a) := by
  rw [traces_ask_iff, or_iff_right fun cut => Option.some_ne_none a cut.2]

/-- A trace of two programs in sequence is cut in the first or goes through it. -/
theorem traces_bind {p : Program α} {f : α → Program β} {h : List Exchange} {o : Option β}
    (run : (p >>= f).Traces h o) :
    (p.Traces h none ∧ o = none) ∨
      ∃ a h₁ h₂, p.Traces h₁ (some a) ∧ (f a).Traces h₂ o ∧ h = h₁ ++ h₂ := by
  induction p generalizing h with
  | done a => exact .inr ⟨a, [], h, .finished a, run, rfl⟩
  | ask r next ih =>
      rw [ask_bind, traces_ask_iff] at run
      rcases run with ⟨rfl, rfl⟩ | ⟨answer, h', rfl, rest⟩
      · exact .inl ⟨.cut _, rfl⟩
      · rcases ih answer rest with ⟨first, rfl⟩ | ⟨a, h₁, h₂, first, second, rfl⟩
        · exact .inl ⟨.asked first, rfl⟩
        · exact .inr ⟨a, ⟨r, answer⟩ :: h₁, h₂, .asked first, second, rfl⟩

/-- A trace of two programs in sequence that comes to an end has gone through both. -/
theorem traces_bind_some {p : Program α} {f : α → Program β} {h : List Exchange} {b : β}
    (run : (p >>= f).Traces h (some b)) :
    ∃ a h₁ h₂, p.Traces h₁ (some a) ∧ (f a).Traces h₂ (some b) ∧ h = h₁ ++ h₂ :=
  (traces_bind run).resolve_left fun cut => Option.some_ne_none b cut.2

/-- Answers determine the result: of traces that begin the same way, no two come to an end with
different results. -/
theorem Traces.unique {p : Program α} {a b : α} {h₁ h₂ g₁ g₂ : List Exchange}
    (first : p.Traces h₁ (some a)) (second : p.Traces h₂ (some b)) (h : h₁ ++ g₁ = h₂ ++ g₂) :
    a = b := by
  induction p generalizing h₁ h₂ with
  | done c =>
      obtain ⟨-, rfl⟩ := traces_done_some_iff.mp first
      exact (traces_done_some_iff.mp second).2
  | ask r next ih =>
      obtain ⟨answer, h₁', rfl, first'⟩ := traces_ask_some_iff.mp first
      obtain ⟨answer', h₂', rfl, second'⟩ := traces_ask_some_iff.mp second
      obtain ⟨he, rest⟩ := List.cons.inj h
      cases he
      exact ih answer first' second' rest

/-! ## Runs -/

section Runs

variable {σ : Type} (answer : (r : Request) → σ → r.Answer × σ)

/-- The exchanges of a run with the given surroundings. -/
def exchanges : Program α → σ → List Exchange
  | .done _, _ => []
  | .ask r next, s => ⟨r, (answer r s).1⟩ :: (next (answer r s).1).exchanges (answer r s).2

/-- A run is a trace that goes to the end, whatever the surroundings are. -/
theorem traces_run (p : Program α) (s : σ) :
    p.Traces (p.exchanges answer s) (some (p.run answer s).1) := by
  induction p generalizing s with
  | done a => exact .finished a
  | ask r next ih => exact .asked (ih (answer r s).1 (answer r s).2)

end Runs

/-! ## Programs that only look things up -/

/-- Every exchange of the program is a look-up. -/
def OnlyLooksUp (p : Program α) : Prop :=
  ∀ h o, p.Traces h o → ∀ x ∈ h, x.isLookup = true

theorem onlyLooksUp_done (a : α) : (done a).OnlyLooksUp := by
  intro h o run x hx
  rw [(traces_done_iff.mp run).1] at hx
  exact absurd hx List.not_mem_nil

theorem onlyLooksUp_find (l : Lookup) : (request (.find l)).OnlyLooksUp := by
  intro h o run x hx
  rcases traces_ask_iff.mp run with ⟨rfl, -⟩ | ⟨answer, h', rfl, rest⟩
  · exact absurd hx List.not_mem_nil
  · rw [(traces_done_iff.mp rest).1, List.mem_singleton] at hx
    rw [hx]
    rfl

theorem OnlyLooksUp.bind {p : Program α} {f : α → Program β} (hp : p.OnlyLooksUp)
    (hf : ∀ a, (f a).OnlyLooksUp) : (p >>= f).OnlyLooksUp := by
  intro h o run x hx
  rcases traces_bind run with ⟨first, -⟩ | ⟨a, h₁, h₂, first, second, rfl⟩
  · exact hp _ _ first x hx
  · rcases List.mem_append.mp hx with hx | hx
    · exact hp _ _ first x hx
    · exact hf a _ _ second x hx

/-! ## What programs yield -/

/-- If its exchanges are good, the results of the program have a property. -/
def Yields (p : Program α) (good : Exchange → Prop) (post : α → Prop) : Prop :=
  ∀ h a, p.Traces h (some a) → (∀ x ∈ h, good x) → post a

namespace Yields

variable {p : Program α} {good : Exchange → Prop} {post : α → Prop}

theorem done {a : α} (ha : post a) : (Program.done a).Yields good post := by
  intro h b run _
  obtain ⟨-, rfl⟩ := traces_done_some_iff.mp run
  exact ha

theorem ask {r : Request} {next : r.Answer → Program α}
    (rest : ∀ answer, good ⟨r, answer⟩ → (next answer).Yields good post) :
    (Program.ask r next).Yields good post := by
  intro h a run all
  obtain ⟨answer, h', rfl, onward⟩ := traces_ask_some_iff.mp run
  exact rest answer (all _ List.mem_cons_self) h' a onward fun x hx => all x (.tail _ hx)

theorem bind {f : α → Program β} {post : β → Prop} {mid : α → Prop} (first : p.Yields good mid)
    (rest : ∀ a, mid a → (f a).Yields good post) : (p >>= f).Yields good post := by
  intro h b run all
  obtain ⟨a, h₁, h₂, first_run, rest_run, rfl⟩ := traces_bind_some run
  have ha := first h₁ a first_run fun x hx => all x (List.mem_append_left _ hx)
  exact rest a ha h₂ b rest_run fun x hx => all x (List.mem_append_right _ hx)

end Yields

end Program

/-! ## Attempts -/

namespace Attempt

variable {α β : Type}

/-- How a trace of an attempt ends: with success, with an error, or cut short. -/
def verdict (o : Option (Except Error α)) : Option Bool := o.map Except.isOk

@[simp] theorem verdict_none : verdict (none : Option (Except Error α)) = none := rfl

@[simp] theorem verdict_ok (a : α) : verdict (some (.ok a)) = some true := rfl

@[simp] theorem verdict_error (e : Error) :
    verdict (some (.error e) : Option (Except Error α)) = some false := rfl

/-- A trace of two attempts in sequence goes through the first, or stops there with an error
or because it is cut. -/
theorem traces_bind {x : Attempt α} {f : α → Attempt β} {h : List Exchange}
    {o : Option (Except Error β)} (run : (x >>= f).run.Traces h o) :
    ∃ h₁ o₁, x.run.Traces h₁ o₁ ∧
      ((∃ a h₂, o₁ = some (.ok a) ∧ (f a).run.Traces h₂ o ∧ h = h₁ ++ h₂) ∨
        (h = h₁ ∧ verdict o₁ ≠ some true ∧ (o = none ∨ verdict o = verdict o₁) ∧
          ∀ b, o ≠ some (.ok b))) := by
  rw [ExceptT.run_bind] at run
  rcases Program.traces_bind run with ⟨first, rfl⟩ | ⟨result, h₁, h₂, first, second, rfl⟩
  · exact ⟨h, none, first, .inr ⟨rfl, nofun, .inl rfl, nofun⟩⟩
  · refine ⟨h₁, some result, first, ?_⟩
    cases result with
    | ok a => exact .inl ⟨a, h₂, rfl, second, rfl⟩
    | error e =>
        obtain ⟨rfl, rfl | rfl⟩ := Program.traces_done_iff.mp second
        · exact .inr ⟨List.append_nil h₁, nofun, .inl rfl, nofun⟩
        · exact .inr ⟨List.append_nil h₁, nofun, .inr rfl, nofun⟩

end Attempt

end VolumeHandover
