import Guypervisor.Model.Operation

/-! # Rules for the driver's code

The rules of `Effects` at the two shapes the driver's code is written in: one operation followed
by the rest, and a routine run in a frame of its own.
-/

namespace Guypervisor.Proofs

open Effects Effects.Program Model Code

/-- Confinement of a program that begins with one operation. -/
theorem confined_ask_bind {α : Type} {ops : Op → Prop} {results : α → Prop} {op : Op}
    {next : op.Response → Code α} (issued : ops op)
    (rest : ∀ response, (next response).Confined ops results) :
    Confined (P := interface) ops results (ask op >>= next) :=
  ⟨issued, rest⟩

/-- Confinement of a routine: its body, between its entry and its return. -/
theorem confined_call {α : Type} {ops : Op → Prop} {results : α → Prop} {routine : Routine}
    {body : Code α} (entered : ops (.enter routine)) (left : ops (.leave routine))
    (confined : body.Confined ops results) : (call routine body).Confined ops results :=
  confined_ask_bind entered fun _ => confined.bind fun _ result =>
    confined_ask_bind left fun _ => result

/-- A finished run of a program that begins with one operation. -/
theorem path_ask_bind {σ α : Type} {env : Environment interface σ} {op : Op}
    {next : op.Response → Code α} {start final : σ} {events : List (Event interface)} {result : α}
    (path : Path env (ask op >>= next) start events (.done result) final) :
    ∃ response later, events = ⟨op, response⟩ :: later ∧ env.allows start op response ∧
      Path env (next response) (env.next start op response) later (.done result) final :=
  path.of_issue_done

section Ensures

variable {σ α : Type} {env : Environment interface σ} {legal : σ → Op → Prop} {state : σ}

/-- Precondition of a program that begins with one operation. -/
theorem ensures_ask_bind {op : Op} {next : op.Response → Code α} {post : α → σ → Prop}
    (issued : legal state op)
    (rest : ∀ response, env.allows state op response →
      (next response).Ensures env legal (env.next state op response) post) :
    Ensures env legal (ask op >>= next) state post :=
  ⟨issued, rest⟩

/-- Precondition of a program that begins with an operation which changes nothing. -/
theorem ensures_query_bind {op : Op} {next : op.Response → Code α} {post : α → σ → Prop}
    (issued : legal state op) (steady : ∀ response, env.next state op response = state)
    (rest : ∀ response, env.allows state op response →
      (next response).Ensures env legal state post) :
    Ensures env legal (ask op >>= next) state post := by
  refine ensures_ask_bind issued fun response allowed => ?_
  rw [steady response]
  exact rest response allowed

/-- The same, where the answer does not matter. -/
theorem ensures_steady_bind {op : Op} {next : op.Response → Code α} {post : α → σ → Prop}
    (issued : legal state op) (steady : ∀ response, env.next state op response = state)
    (rest : ∀ response, (next response).Ensures env legal state post) :
    Ensures env legal (ask op >>= next) state post :=
  ensures_query_bind issued steady fun response _ => rest response

/-- Precondition of a program that begins with an operation which has only one answer. -/
theorem ensures_unique_bind_iff {op : Op} {next : op.Response → Code α} {post : α → σ → Prop}
    (answer : op.Response) (only : ∀ response, env.allows state op response ↔ response = answer) :
    Ensures env legal (ask op >>= next) state post ↔
      legal state op ∧ (next answer).Ensures env legal (env.next state op answer) post := by
  refine and_congr_right fun _ => ?_
  constructor
  · intro ensured
    exact ensured answer ((only answer).mpr rfl)
  · intro ensured response allowed
    obtain rfl : response = answer := (only response).mp allowed
    exact ensured

/-- Precondition of a routine. -/
theorem ensures_call {routine : Routine} {body : Code α} {post : α → σ → Prop}
    (entered : legal state (.enter routine))
    (ensured : body.Ensures env legal (env.next state (.enter routine) ()) fun result between =>
      legal between (.leave routine) ∧ post result (env.next between (.leave routine) ())) :
    (call routine body).Ensures env legal state post :=
  ensures_ask_bind entered fun _ _ => ensured.bind fun _ _ left =>
    ensures_ask_bind left.1 fun _ _ => left.2

end Ensures

end Guypervisor.Proofs
