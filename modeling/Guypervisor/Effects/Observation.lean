import Guypervisor.Effects.Environment
import Guypervisor.Effects.Sum

/-! # Runs with what was observed of them

A postcondition speaks of the last state of a run and not of its events. Where the events matter,
the state is paired with the list of what has been observed of them so far; every run is a run of
the paired environment, which ends with the observations of its events.
-/

namespace Effects

variable {P : PFunctor.{0, 0}} {σ ω α : Type}

/-- The environment whose state also lists what was observed. -/
def Environment.observing (env : Environment P σ) (observe : Event P → Option ω) :
    Environment P (σ × List ω) where
  allows state op response := env.allows state.1 op response
  next state op response :=
    (env.next state.1 op response, state.2 ++ (observe ⟨op, response⟩).toList)

/-- A run, with the observations of its events after earlier ones. -/
theorem Path.observing {env : Environment P σ} {program rest : Program P α} {start final : σ}
    {events : List (Event P)} (path : Path env program start events rest final)
    (observe : Event P → Option ω) (seen : List ω) :
    Path (env.observing observe) program (start, seen) events rest
      (final, seen ++ events.filterMap observe) := by
  induction path generalizing seen with
  | nil =>
    rw [List.filterMap_nil, List.append_nil]
    exact .nil _ _
  | @cons op _ _ _ events _ response allowed _ ih =>
    have split : seen ++ (⟨op, response⟩ :: events).filterMap observe =
        (seen ++ (observe ⟨op, response⟩).toList) ++ events.filterMap observe := by
      rw [List.filterMap_cons]
      cases observe ⟨op, response⟩ <;> simp
    rw [split]
    exact .cons response allowed (ih _)

/-- The observations so far. -/
def Seen (seen : List ω) (state : σ × List ω) : Prop := state.2 = seen

/-- Nothing is observed of an operation, however it is answered. -/
def Silent (observe : Event P → Option ω) (op : P.A) : Prop :=
  ∀ response, observe ⟨op, response⟩ = none

section Seen

variable {env : Environment P σ} {observe : Event P → Option ω} {seen : List ω} {state : σ × List ω}
  {op : P.A}

theorem Seen.next (sees : Seen seen state) (silent : Silent observe op) (response : P.B op) :
    Seen seen ((env.observing observe).next state op response) := by
  change state.2 ++ (observe ⟨op, response⟩).toList = seen
  rw [silent response, show state.2 = seen from sees]
  exact List.append_nil _

theorem Seen.observed (sees : Seen seen state) {response : P.B op} {word : ω}
    (observed : observe ⟨op, response⟩ = some word) :
    Seen (seen ++ [word]) ((env.observing observe).next state op response) := by
  change state.2 ++ (observe ⟨op, response⟩).toList = seen ++ [word]
  rw [observed, show state.2 = seen from sees]
  rfl

/-- Code of which nothing is observed leaves the observations as they are. -/
theorem Program.Confined.ensures_seen {legal : σ × List ω → P.A → Prop} {program : Program P α}
    {ops : P.A → Prop} {results : α → Prop} (confined : program.Confined ops results)
    (silent : ∀ op, ops op → Silent observe op) (issues : ∀ state op, ops op → legal state op)
    (sees : Seen seen state) :
    program.Ensures (env.observing observe) legal state fun result final =>
      results result ∧ Seen seen final :=
  confined.keeps (fun state op work _ => issues state op work)
    (fun _ op response work sees _ => sees.next (silent op work) response) sees

end Seen

section Both

variable {Q : PFunctor.{0, 0}}

/-- What is observed of the first of two interfaces. -/
def observeLeft (observe : Event P → Option ω) : Event (Both P Q) → Option ω
  | ⟨.inl op, response⟩ => observe ⟨op, response⟩
  | ⟨.inr _, _⟩ => none

/-- It is what its own part of the environment observes. -/
theorem Environment.left_observing (env : Environment (Both P Q) σ) (observe : Event P → Option ω) :
    (env.observing (observeLeft observe)).left = env.left.observing observe := rfl

end Both

end Effects
