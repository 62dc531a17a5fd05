import Mathlib.Data.PFunctor.Univariate.Basic

/-! # Programs as trees of operations

A program over an interface `P` either is done with a result or issues one operation of `P.A`
and resumes with the response it receives. Nothing is said here about which responses arrive:
an environment supplies them later, so that one program text can be run against every hardware
and kernel behaviour. An operation with an empty response type never resumes; this is how
control that leaves the program for good is expressed.
-/

namespace Effects

/-- Finite trees of operations; the branching of an operation is its response type. -/
inductive Program (P : PFunctor.{0, 0}) (α : Type) : Type
  | done (result : α)
  | issue (op : P.A) (resume : P.B op → Program P α)

/-- One operation together with the response it received. -/
abbrev Event (P : PFunctor.{0, 0}) : Type := (op : P.A) × P.B op

namespace Program

variable {P : PFunctor.{0, 0}} {α β : Type}

/-- Sequencing grafts the continuation onto every result. -/
protected def bind (program : Program P α) (next : α → Program P β) : Program P β :=
  match program with
  | done result => next result
  | issue op resume => issue op fun response => (resume response).bind next

instance : Monad (Program P) where
  pure := done
  bind := Program.bind

/-- The program that issues one operation and returns its response. -/
def perform (op : P.A) : Program P (P.B op) := issue op done

private theorem bind_done (program : Program P α) : program >>= done = program := by
  induction program with
  | done => rfl
  | issue op resume ih => exact congrArg (issue op) (funext ih)

private theorem bind_assoc' {γ : Type} (program : Program P α) (first : α → Program P β)
    (second : β → Program P γ) :
    (program >>= first) >>= second = program >>= fun result => first result >>= second := by
  induction program with
  | done => rfl
  | issue op resume ih => exact congrArg (issue op) (funext ih)

instance : LawfulMonad (Program P) :=
  LawfulMonad.mk' _ bind_done (fun _ _ => rfl) bind_assoc'

/-- The operation a program is about to issue, if it is not done. -/
def head? : Program P α → Option P.A
  | done _ => none
  | issue op _ => some op

theorem done_of_head? {program : Program P α} (finished : program.head? = none) :
    ∃ result, program = .done result := by
  cases program with
  | done result => exact ⟨result, rfl⟩
  | issue => contradiction

theorem issue_of_head? {program : Program P α} {op : P.A} (issued : program.head? = some op) :
    ∃ resume, program = .issue op resume := by
  cases program with
  | done => contradiction
  | issue _ resume =>
    obtain rfl := Option.some.inj issued
    exact ⟨resume, rfl⟩

/-- A sequence begins with the operation its first program is about to issue. -/
theorem head?_bind {program : Program P α} {op : P.A} (issued : program.head? = some op)
    (next : α → Program P β) : (program >>= next).head? = some op := by
  cases program with
  | done => contradiction
  | issue => exact issued

/-- The result of a program that is done. -/
def result? : Program P α → Option α
  | done result => some result
  | issue _ _ => none

theorem done_of_result? {program : Program P α} {result : α}
    (finished : program.result? = some result) : program = .done result := by
  cases program with
  | done => exact congrArg done (Option.some.inj finished)
  | issue => contradiction

/-- Nothing more can happen: the program is done, or waits for a response that does not exist. -/
def Halted (program : Program P α) : Prop := ∀ op, program.head? = some op → IsEmpty (P.B op)

theorem halted_of_head? {program : Program P α} (finished : program.head? = none) :
    program.Halted := by
  intro op issued
  rw [finished] at issued
  contradiction

/-- Every operation the program can issue satisfies `ops`, every result satisfies `results`,
whatever the responses are. -/
def Confined (ops : P.A → Prop) (results : α → Prop) : Program P α → Prop
  | done result => results result
  | issue op resume => ops op ∧ ∀ response, (resume response).Confined ops results

section Confined

variable {ops : P.A → Prop} {results : α → Prop} {others : β → Prop}

theorem confined_bind (program : Program P α) (next : α → Program P β) :
    (program >>= next).Confined ops others ↔
      program.Confined ops fun result => (next result).Confined ops others := by
  induction program with
  | done => rfl
  | issue op resume ih => exact and_congr_right fun _ => forall_congr' ih

/-- Where nothing is asked for, every program is confined. -/
theorem confined_true (program : Program P α) :
    program.Confined (fun _ => True) fun _ => True := by
  induction program with
  | done => trivial
  | issue _ _ ih => exact ⟨trivial, ih⟩

theorem Confined.mono {program : Program P α} {weaker : P.A → Prop} {wider : α → Prop}
    (confined : program.Confined ops results) (opsWeaker : ∀ op, ops op → weaker op)
    (resultsWider : ∀ result, results result → wider result) : program.Confined weaker wider := by
  induction program with
  | done result => exact resultsWider result confined
  | issue op resume ih =>
    exact ⟨opsWeaker op confined.1, fun response => ih response (confined.2 response)⟩

theorem Confined.and {program : Program P α} {ops others : P.A → Prop} {results further : α → Prop}
    (first : program.Confined ops results) (second : program.Confined others further) :
    program.Confined (fun op => ops op ∧ others op) fun result => results result ∧ further result := by
  induction program with
  | done => exact ⟨first, second⟩
  | issue op resume ih =>
    exact ⟨⟨first.1, second.1⟩, fun response => ih response (first.2 response) (second.2 response)⟩

/-- Sequencing rule: the results of the first program are all that the second may rely on. -/
theorem Confined.bind {program : Program P α} {next : α → Program P β}
    (confined : program.Confined ops results)
    (rest : ∀ result, results result → (next result).Confined ops others) :
    (program >>= next).Confined ops others :=
  (confined_bind program next).mpr (confined.mono (fun _ => id) rest)

/-- Continuations that agree on every result a program can have are interchangeable after it. -/
theorem Confined.bind_congr {program : Program P α} {first second : α → Program P β}
    (confined : program.Confined ops results)
    (same : ∀ result, results result → first result = second result) :
    program >>= first = program >>= second := by
  induction program with
  | done result => exact same result confined
  | issue op resume ih =>
    apply congrArg (issue op)
    funext response
    exact ih response (confined.2 response)

/-- A loop over a list is confined when each of its rounds is. -/
theorem confined_forM {ι : Type} {items : List ι} {body : ι → Program P PUnit}
    (each : ∀ item ∈ items, (body item).Confined ops fun _ => True) :
    (items.forM body).Confined ops fun _ => True := by
  induction items with
  | nil => trivial
  | cons item rest ih =>
    refine (each item List.mem_cons_self).bind fun _ _ => ih fun other member => ?_
    exact each other (List.mem_cons_of_mem item member)

end Confined

end Program

end Effects
