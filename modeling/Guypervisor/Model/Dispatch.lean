import Guypervisor.Model.System

/-! # Serving IRPs

The I/O manager calls the dispatch routine that stands in the driver object's table for the IRP's
major function. No routine of the driver marks an IRP pending.
-/

namespace Guypervisor.Model

open Effects

/-- An IRP whose dispatch routine has returned, with what the routine did and returned. -/
structure Served where
  irp : Irp
  events : List (Event interface)
  status : NTSTATUS

/-- IRPs served one after another, each by a routine of the table. -/
inductive Serves {σ : Type} (env : Environment interface σ)
    (majorFunction : ℕ → Option DispatchRoutine) : σ → List Served → σ → Prop
  | nil (state : σ) : Serves env majorFunction state [] state
  | cons {depth : ℕ} {irp : Irp} {routine : DispatchRoutine} {state between final : σ}
      {events : List (Event interface)} {status : NTSTATUS} {served : List Served} :
      majorFunction irp.majorFunction = some routine →
      Path env (routine.call depth irp) state events (.done status) between →
      Serves env majorFunction between served final →
      Serves env majorFunction state (⟨irp, events, status⟩ :: served) final

end Guypervisor.Model
