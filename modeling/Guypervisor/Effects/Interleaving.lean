import Guypervisor.Effects.Environment
import Mathlib.Logic.Function.Basic

/-! # Interleaved programs

A family of threads, each with a program and a local state of its own, takes one operation of
one thread at a time. A thread's environment sees its local state only; a guard may look at all
of them, and stands for whatever the threads do to keep out of each other's way. Two rules carry
properties to every interleaving. What a thread ensures by itself it ensures in company, since no
step of another touches its state; and a property of all states that every guarded step keeps
holds throughout.
-/

namespace Effects

variable {P : PFunctor.{0, 0}} {ι τ α : Type} [DecidableEq ι]

/-- One thread's condition on an answer, given the states of all threads. -/
abbrev Guard (P : PFunctor.{0, 0}) (ι τ : Type) : Type :=
  ι → (ι → τ) → (op : P.A) → P.B op → Prop

/-- Interleavings whose steps all pass the guard. -/
inductive Interleaves (env : ι → Environment P τ) (guard : Guard P ι τ) :
    (ι → Program P α) → (ι → τ) → (ι → Program P α) → (ι → τ) → Prop
  | refl (programs : ι → Program P α) (states : ι → τ) :
      Interleaves env guard programs states programs states
  | step {programs lasts : ι → Program P α} {states finals : ι → τ} (i : ι) {op : P.A}
      {resume : P.B op → Program P α} (response : P.B op) :
      programs i = .issue op resume → (env i).allows (states i) op response →
      guard i states op response →
      Interleaves env guard (Function.update programs i (resume response))
        (Function.update states i ((env i).next (states i) op response)) lasts finals →
      Interleaves env guard programs states lasts finals

namespace Interleaves

variable {env : ι → Environment P τ} {guard : Guard P ι τ}
  {programs middles lasts : ι → Program P α} {states betweens finals : ι → τ}

theorem trans (left : Interleaves env guard programs states middles betweens)
    (right : Interleaves env guard middles betweens lasts finals) :
    Interleaves env guard programs states lasts finals := by
  induction left with
  | refl => exact right
  | step i response issued allowed guarded _ ih => exact .step i response issued allowed guarded (ih right)

private theorem of_path_update (i : ι) {program rest : Program P α} {start final : τ}
    {events : List (Event P)} (path : Path (env i) program start events rest final)
    (passes : ∀ state op response, (env i).allows state op response →
      guard i (Function.update states i state) op response) :
    Interleaves env guard (Function.update programs i program) (Function.update states i start)
      (Function.update programs i rest) (Function.update states i final) := by
  induction path with
  | nil => exact .refl _ _
  | cons response allowed _ ih =>
    refine .step i response (Function.update_self ..) ?_ (passes _ _ _ allowed) ?_
    · rw [Function.update_self]
      exact allowed
    · rw [Function.update_self, Function.update_idem, Function.update_idem]
      exact ih

/-- A run of one thread alone is an interleaving, if the guard lets it pass. -/
theorem of_reaches (i : ι) {rest : Program P α} {final : τ}
    (reaches : Reaches (env i) (programs i) (states i) rest final)
    (passes : ∀ state op response, (env i).allows state op response →
      guard i (Function.update states i state) op response) :
    Interleaves env guard programs states (Function.update programs i rest)
      (Function.update states i final) := by
  obtain ⟨events, path⟩ := reaches
  have run := @of_path_update _ _ _ _ _ env guard programs states i _ _ _ _ _ path passes
  rwa [Function.update_eq_self, Function.update_eq_self] at run

/-- What each thread ensures by itself, each thread ensures in every interleaving. -/
theorem ensures {legal : ι → τ → P.A → Prop} {post : ι → α → τ → Prop}
    (run : Interleaves env guard programs states lasts finals)
    (ensured : ∀ i, (programs i).Ensures (env i) (legal i) (states i) (post i)) (i : ι) :
    (lasts i).Ensures (env i) (legal i) (finals i) (post i) := by
  induction run with
  | refl => exact ensured i
  | @step programs _ states _ j op resume response issued allowed _ _ ih =>
    refine ih fun k => ?_
    by_cases same : k = j
    · subst same
      have before := ensured k
      rw [issued] at before
      rw [Function.update_self, Function.update_self]
      exact before.2 response allowed
    · rw [Function.update_of_ne same, Function.update_of_ne same]
      exact ensured k

/-- A property of the states that every guarded step keeps holds in every reachable state. -/
theorem invariant {property : (ι → τ) → Prop}
    (keeps : ∀ i states op response, property states → (env i).allows (states i) op response →
      guard i states op response →
      property (Function.update states i ((env i).next (states i) op response)))
    (run : Interleaves env guard programs states lasts finals) (initially : property states) :
    property finals := by
  induction run with
  | refl => exact initially
  | step i response _ allowed guarded _ ih => exact ih (keeps i _ _ response initially allowed guarded)

end Interleaves

end Effects
