import Guypervisor.Effects.Environment

/-! # Programs over two interfaces

Code that needs the operations of one interface only can be run inside code that has those of
another beside them. Nothing it does depends on the second interface, so each rule for it is its
own rule in the part of the environment that answers it.
-/

namespace Effects

/-- What an operation of one of two interfaces answers. -/
abbrev Both.Response (P Q : PFunctor.{0, 0}) : P.A ⊕ Q.A → Type
  | .inl op => P.B op
  | .inr op => Q.B op

/-- The operations of two interfaces. -/
abbrev Both (P Q : PFunctor.{0, 0}) : PFunctor.{0, 0} := ⟨P.A ⊕ Q.A, Both.Response P Q⟩

variable {P Q : PFunctor.{0, 0}} {σ α β : Type}

/-- What an environment of both interfaces is to the first. -/
def Environment.left (env : Environment (Both P Q) σ) : Environment P σ where
  allows state op response := env.allows state (Sum.inl op) response
  next state op response := env.next state (Sum.inl op) response

/-- The environment of the first interface beside a second one, whose operations may be answered in
any way and change nothing. -/
def Environment.beside (env : Environment P σ) : Environment (Both P Q) σ where
  allows state op response :=
    match op, response with
    | .inl op, response => env.allows state op response
    | .inr _, _ => True
  next state op response :=
    match op, response with
    | .inl op, response => env.next state op response
    | .inr _, _ => state

/-- An event of the first interface as one of both. -/
def Event.inLeft (event : Event P) : Event (Both P Q) := ⟨Sum.inl event.1, event.2⟩

namespace Program

/-- A program over the first interface as one over both. -/
def inLeft : Program P α → Program (Both P Q) α
  | done result => done result
  | issue op resume => @issue (Both P Q) α (Sum.inl op) fun response => (resume response).inLeft

theorem confined_inLeft (program : Program P α) (ops : (Both P Q).A → Prop) (results : α → Prop) :
    (program.inLeft (Q := Q)).Confined ops results ↔
      program.Confined (fun op => ops (Sum.inl op)) results := by
  induction program with
  | done => rfl
  | issue op resume ih => exact and_congr_right fun _ => forall_congr' ih

/-- It is about to issue the same operation. -/
theorem head?_inLeft {program : Program P α} {op : P.A} (issued : program.head? = some op) :
    (program.inLeft (Q := Q)).head? = some (Sum.inl op) := by
  cases program with
  | done => contradiction
  | issue => exact congrArg _ (congrArg Sum.inl (Option.some.inj issued))

/-- A sequence over the first interface is a sequence over both. -/
theorem inLeft_bind (program : Program P α) (next : α → Program P β) :
    (program >>= next).inLeft (Q := Q) = program.inLeft >>= fun result => (next result).inLeft := by
  induction program with
  | done => rfl
  | issue op resume ih => exact congrArg (@issue (Both P Q) β (Sum.inl op)) (funext ih)

/-- What it ensures is what it ensures in the environment's part. -/
theorem ensures_inLeft {env : Environment (Both P Q) σ} {legal : σ → (Both P Q).A → Prop}
    (program : Program P α) (state : σ) (post : α → σ → Prop) :
    program.inLeft.Ensures env legal state post ↔
      program.Ensures env.left (fun state op => legal state (Sum.inl op)) state post := by
  induction program generalizing state with
  | done => rfl
  | issue op resume ih =>
    exact and_congr_right fun _ => forall_congr' fun response => imp_congr_right fun _ => ih response _

end Program

/-- A run among the operations of the first interface is a run. -/
theorem Reaches.inLeft {env : Environment (Both P Q) σ} {program rest : Program P α}
    {start final : σ} (reaches : Reaches env.left program start rest final) :
    Reaches env program.inLeft start rest.inLeft final := by
  obtain ⟨events, path⟩ := reaches
  induction path with
  | nil => exact .refl _ _
  | cons response allowed _ ih => exact Reaches.step (P := Both P Q) response allowed ih

/-- It is a run beside another interface. -/
theorem Reaches.beside {env : Environment P σ} {program rest : Program P α} {start final : σ}
    (reaches : Reaches env program start rest final) :
    Reaches (env.beside (Q := Q)) program.inLeft start rest.inLeft final := by
  have split : Reaches (env.beside (Q := Q)).left program start rest final := reaches
  exact split.inLeft

end Effects
