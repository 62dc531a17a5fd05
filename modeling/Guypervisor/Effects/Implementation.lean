import Guypervisor.Effects.Environment

/-! # Operations implemented by programs

Where each operation of an interface is a program over another one, a program over the first is a
program over the second. It ensures there what it ensures over its own interface, if the program for
each operation ends in an answer that the operation can have, and in a state that stands for the one
the answer leads to.
-/

namespace Effects

variable {P Q : PFunctor.{0, 0}} {σ τ α : Type}

/-- A program for each operation. -/
abbrev Implementation (P Q : PFunctor.{0, 0}) : Type := (op : P.A) → Program Q (P.B op)

namespace Program

/-- The program in which each operation is what implements it. -/
def implemented (implementation : Implementation P Q) : Program P α → Program Q α
  | done result => done result
  | issue op resume =>
    implementation op >>= fun response => (resume response).implemented implementation

theorem implemented_bind {β : Type} (implementation : Implementation P Q) (program : Program P α)
    (next : α → Program P β) :
    (program >>= next).implemented implementation =
      program.implemented implementation >>= fun result => (next result).implemented implementation := by
  induction program with
  | done result => rfl
  | issue op resume ih =>
    change implementation op >>= (fun response => (resume response >>= next).implemented _) = _
    simp only [ih]
    exact (bind_assoc _ _ _).symm

/-- From related states on, the program for each operation that is legal ends in one of its answers,
in a state related to the next one. -/
def Implements (implementation : Implementation P Q) (env : Environment P σ)
    (legal : σ → P.A → Prop) (below : Environment Q τ) (legalBelow : τ → Q.A → Prop)
    (stands : σ → τ → Prop) : Prop :=
  ∀ state low op, stands state low → legal state op →
    (implementation op).Ensures below legalBelow low fun response final =>
      env.allows state op response ∧ stands (env.next state op response) final

/-- What is ensured over the interface is ensured over the one that implements it. -/
theorem Ensures.implemented {implementation : Implementation P Q} {env : Environment P σ}
    {legal : σ → P.A → Prop} {below : Environment Q τ} {legalBelow : τ → Q.A → Prop}
    {stands : σ → τ → Prop}
    (implements : Implements implementation env legal below legalBelow stands)
    {program : Program P α} {state : σ} {low : τ} {post : α → σ → Prop}
    (ensured : program.Ensures env legal state post) (related : stands state low) :
    (program.implemented implementation).Ensures below legalBelow low fun result final =>
      ∃ reached, stands reached final ∧ post result reached := by
  induction program generalizing state low with
  | done result => exact ⟨state, related, ensured⟩
  | issue op resume ih =>
    apply (implements state low op related ensured.1).bind
    rintro response between ⟨allowed, related⟩
    exact ih response (ensured.2 response allowed) related

end Program

end Effects
