import Guypervisor.Effects.Environment

/-! # An answer that is known beforehand

Where a program asks something at most once, nothing is lost if the answer is fixed before it runs: of
each answer that may be given, what is ensured with that answer alone is ensured in a run that gets
it. What a program makes of an answer can then be described from its start.
-/

namespace Effects

variable {P : PFunctor.{0, 0}} {σ α β : Type} {env : Environment P σ} {op : P.A}

/-- One operation is answered in one way. -/
def Environment.foretold (env : Environment P σ) (op : P.A) (answer : P.B op) : Environment P σ :=
  env.restrict fun _ asked response => asked = op → (⟨asked, response⟩ : Event P) = ⟨op, answer⟩

/-- What was foretold is answered. -/
theorem Environment.foretold_answer {answer response : P.B op} {state : σ}
    (allowed : (env.foretold op answer).allows state op response) : response = answer :=
  eq_of_heq (Sigma.mk.inj (allowed.2 rfl)).2

namespace Program

/-- No run asks for it twice. -/
def AsksOnce (op : P.A) : Program P α → Prop
  | done _ => True
  | issue asked resume =>
    (asked = op → ∀ response, (resume response).Confined (· ≠ op) fun _ => True) ∧
      ∀ response, (resume response).AsksOnce op

/-- A program that never asks for it. -/
theorem Confined.asksOnce {program : Program P α} {results : α → Prop}
    (confined : program.Confined (· ≠ op) results) : program.AsksOnce op := by
  induction program with
  | done => trivial
  | issue asked resume ih =>
    exact ⟨fun same => absurd same confined.1, fun response => ih response (confined.2 response)⟩

theorem Confined.bind_asksOnce {program : Program P α} {next : α → Program P β} {results : α → Prop}
    (confined : program.Confined (· ≠ op) results)
    (rest : ∀ result, results result → (next result).AsksOnce op) :
    (program >>= next).AsksOnce op := by
  induction program with
  | done result => exact rest result confined
  | issue asked resume ih =>
    exact ⟨fun same => absurd same confined.1, fun response => ih response (confined.2 response)⟩

theorem AsksOnce.bind {program : Program P α} {next : α → Program P β} {ops : P.A → Prop}
    {results : α → Prop} (once : program.AsksOnce op) (confined : program.Confined ops results)
    (rest : ∀ result, results result → (next result).Confined (· ≠ op) fun _ => True) :
    (program >>= next).AsksOnce op := by
  induction program with
  | done result => exact (rest result confined).asksOnce
  | issue asked resume ih =>
    refine ⟨fun same response => ?_, fun response => ih response (once.2 response) (confined.2 response)⟩
    have both := (once.1 same response).and (confined.2 response)
    exact (both.mono (fun _ => And.left) fun _ => And.right).bind rest

variable {legal : σ → P.A → Prop} {state : σ}

/-- To a program that never asks it does not matter what was foretold. -/
private theorem Confined.ensures_of_foretold {program : Program P α} {post : α → σ → Prop}
    {answer : P.B op} (confined : program.Confined (· ≠ op) fun _ => True)
    (ensured : program.Ensures (env.foretold op answer) legal state post) :
    program.Ensures env legal state post := by
  induction program generalizing state with
  | done => exact ensured
  | issue asked resume ih =>
    refine ⟨ensured.1, fun response allowed => ih response (confined.2 response) ?_⟩
    exact ensured.2 response ⟨allowed, fun same => absurd same confined.1⟩

/-- What is ensured whichever answer is foretold is ensured of the answer that is given. -/
theorem Ensures.of_foretold {program : Program P α} (possible : P.B op → Prop)
    {post : P.B op → α → σ → Prop} (once : program.AsksOnce op) (some : ∃ answer, possible answer)
    (answers : ∀ state response, legal state op → env.allows state op response → possible response)
    (ensured : ∀ answer, possible answer →
      program.Ensures (env.foretold op answer) legal state (post answer)) :
    program.Ensures env legal state fun result final =>
      ∃ answer, possible answer ∧ post answer result final := by
  induction program generalizing state with
  | done result =>
    obtain ⟨answer, can⟩ := some
    exact ⟨answer, can, ensured answer can⟩
  | issue asked resume ih =>
    obtain ⟨answer, can⟩ := some
    refine ⟨(ensured answer can).1, fun response allowed => ?_⟩
    by_cases same : asked = op
    · subst same
      have can : possible response := answers _ _ (ensured answer can).1 allowed
      have rest := (ensured response can).2 response ⟨allowed, fun _ => rfl⟩
      exact (Confined.ensures_of_foretold (once.1 rfl response) rest).mono
        fun _ _ ended => ⟨response, can, ended⟩
    · apply ih response (once.2 response)
      intro answer can
      exact (ensured answer can).2 response ⟨allowed, fun other => absurd other same⟩

end Program

end Effects
