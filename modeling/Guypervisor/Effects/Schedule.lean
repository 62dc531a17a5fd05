import Guypervisor.Effects.Environment
import Mathlib.Logic.Function.Basic

/-! # Threads that share a state

A family of threads takes one operation of one thread at a time, on a state they all share. A thread
is reasoned about alone, in a view: an environment whose local state says of the shared one only what
the other threads leave as it is. The thread's own steps must be steps of its view, and no legal step
of another may part a local state from the shared one; then what each thread ensures in its view it
ensures under every schedule.
-/

namespace Effects

variable {P : PFunctor.{0, 0}} {ι σ τ α : Type} [DecidableEq ι]

/-- The runs of threads that share a state. -/
inductive Schedules (env : ι → Environment P σ) :
    (ι → Program P α) → σ → (ι → Program P α) → σ → Prop
  | refl (programs : ι → Program P α) (state : σ) : Schedules env programs state programs state
  | step {programs lasts : ι → Program P α} {state final : σ} (i : ι) {op : P.A}
      {resume : P.B op → Program P α} (response : P.B op) :
      programs i = .issue op resume → (env i).allows state op response →
      Schedules env (Function.update programs i (resume response)) ((env i).next state op response)
        lasts final →
      Schedules env programs state lasts final

/-- Local states stand for the shared one: a thread's step is a step of its view, and keeps the other
threads' local states true. -/
structure Noninterfering (env : ι → Environment P σ) (view : ι → Environment P τ)
    (legal : ι → τ → P.A → Prop) (couples : ι → τ → σ → Prop) : Prop where
  own : ∀ i mine state op response, couples i mine state → legal i mine op →
    (env i).allows state op response → (view i).allows mine op response ∧
      couples i ((view i).next mine op response) ((env i).next state op response)
  others : ∀ i j, i ≠ j → ∀ mine theirs state op response, couples i mine state →
    couples j theirs state → legal j theirs op → (env j).allows state op response →
      couples i mine ((env j).next state op response)

namespace Schedules

variable {env : ι → Environment P σ} {programs middles lasts : ι → Program P α}
  {state between final : σ}

theorem trans (left : Schedules env programs state middles between)
    (right : Schedules env middles between lasts final) :
    Schedules env programs state lasts final := by
  induction left with
  | refl => exact right
  | step i response issued allowed _ ih => exact .step i response issued allowed (ih right)

/-- A run of one thread alone is a schedule. -/
theorem of_path {i : ι} {program rest : Program P α} {events : List (Event P)}
    (path : Path (env i) program state events rest final) (running : programs i = program) :
    Schedules env programs state (Function.update programs i rest) final := by
  induction path generalizing programs with
  | nil =>
    rw [← running, Function.update_eq_self]
    exact .refl _ _
  | @cons op resume state _ _ _ response allowed _ ih =>
    apply Schedules.step i response running allowed
    have later := ih (Function.update_self i (resume response) programs)
    rwa [Function.update_idem] at later

/-- **What each thread ensures in its view, each thread ensures under every schedule.** -/
theorem ensures {view : ι → Environment P τ} {legal : ι → τ → P.A → Prop}
    {couples : ι → τ → σ → Prop} {post : ι → α → τ → Prop}
    (apart : Noninterfering env view legal couples)
    (run : Schedules env programs state lasts final) {locals : ι → τ}
    (ensured : ∀ i, (programs i).Ensures (view i) (legal i) (locals i) (post i))
    (coupled : ∀ i, couples i (locals i) state) :
    ∃ later : ι → τ, (∀ i, (lasts i).Ensures (view i) (legal i) (later i) (post i)) ∧
      ∀ i, couples i (later i) final := by
  induction run generalizing locals with
  | refl => exact ⟨locals, ensured, coupled⟩
  | @step programs _ state _ j op resume response issued allowed _ ih =>
    have acting := ensured j
    rw [issued] at acting
    obtain ⟨seen, stands⟩ := apart.own j _ _ _ _ (coupled j) acting.1 allowed
    apply @ih (Function.update locals j ((view j).next (locals j) op response))
    · intro i
      by_cases same : i = j
      · subst same
        rw [Function.update_self, Function.update_self]
        exact acting.2 response seen
      · rw [Function.update_of_ne same, Function.update_of_ne same]
        exact ensured i
    · intro i
      by_cases same : i = j
      · subst same
        rw [Function.update_self]
        exact stands
      · rw [Function.update_of_ne same]
        exact apart.others i j same _ _ _ _ _ (coupled i) (coupled j) acting.1 allowed

end Schedules

end Effects
