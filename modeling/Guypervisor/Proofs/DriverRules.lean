import Guypervisor.Effects.Observation
import Guypervisor.Model.Driver
import Guypervisor.Proofs.Setup
import Guypervisor.Proofs.Stages

/-! # Rules for loading and unloading

The rules of `Effects` at the shapes `DriverEntry` and `Device` are written in: one operation
followed by the rest, and code of the other modules followed by the rest.
-/

namespace Guypervisor.Proofs

open Effects Effects.Program Model DriverCode

section Confined

variable {α β : Type} {ops : driverInterface.A → Prop} {results : α → Prop} {others : β → Prop}

/-- Confinement of a program that begins with one operation. -/
theorem confined_askDevice_bind {op : DeviceOp} {next : op.Response → DriverCode α}
    (issued : ops (Sum.inr op)) (rest : ∀ response, (next response).Confined ops results) :
    Confined ops results (DriverCode.ask op >>= next) :=
  ⟨issued, rest⟩

/-- The same, where the operation is one of the other code. -/
theorem confined_askCode_bind {op : Op} {next : op.Response → DriverCode α}
    (issued : ops (Sum.inl op)) (rest : ∀ response, (next response).Confined ops results) :
    Confined ops results (code (Code.ask op) >>= next) :=
  ⟨issued, rest⟩

/-- Confinement of a program that begins with other code. -/
theorem confined_code_bind {program : Code β} {next : β → DriverCode α}
    (confined : program.Confined (fun op => ops (Sum.inl op)) others)
    (rest : ∀ result, others result → (next result).Confined ops results) :
    (code program >>= next).Confined ops results :=
  ((confined_inLeft program ops others).mpr confined).bind rest

end Confined

section Path

variable {σ α : Type} {env : Environment driverInterface σ} {start final : σ}
  {events : List (Event driverInterface)} {result : α}

/-- A finished run of a program that begins with one operation. -/
theorem path_askDevice_bind {op : DeviceOp} {next : op.Response → DriverCode α}
    (path : Path env (DriverCode.ask op >>= next) start events (.done result) final) :
    ∃ (response : op.Response) (later : List (Event driverInterface)),
      events = ⟨Sum.inr op, response⟩ :: later ∧ env.allows start (Sum.inr op) response ∧
        Path env (next response) (env.next start (Sum.inr op) response) later (.done result)
          final :=
  path.of_issue_done

/-- The same, where the operation is one of the other code. -/
theorem path_askCode_bind {op : Op} {next : op.Response → DriverCode α}
    (path : Path env (code (Code.ask op) >>= next) start events (.done result) final) :
    ∃ (response : op.Response) (later : List (Event driverInterface)),
      events = ⟨Sum.inl op, response⟩ :: later ∧ env.allows start (Sum.inl op) response ∧
        Path env (next response) (env.next start (Sum.inl op) response) later (.done result)
          final :=
  path.of_issue_done

end Path

section Ensures

variable {σ α : Type} {env : Environment driverInterface σ}
  {legal : σ → driverInterface.A → Prop} {state : σ} {post : α → σ → Prop}

/-- Precondition of a program that begins with one operation. -/
theorem ensures_askDevice_bind {op : DeviceOp} {next : op.Response → DriverCode α}
    (issued : legal state (Sum.inr op))
    (rest : ∀ response : op.Response, env.allows state (Sum.inr op) response →
      (next response).Ensures env legal (env.next state (Sum.inr op) response) post) :
    Ensures env legal (DriverCode.ask op >>= next) state post :=
  ⟨issued, rest⟩

/-- The same, where the operation is one of the other code. -/
theorem ensures_askCode_bind {op : Op} {next : op.Response → DriverCode α}
    (issued : legal state (Sum.inl op))
    (rest : ∀ response : op.Response, env.allows state (Sum.inl op) response →
      (next response).Ensures env legal (env.next state (Sum.inl op) response) post) :
    Ensures env legal (code (Code.ask op) >>= next) state post :=
  ⟨issued, rest⟩

end Ensures

end Guypervisor.Proofs
