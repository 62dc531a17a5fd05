import Guypervisor.Effects.Program

/-! # Runs of a program and the invariant rule

An environment says which responses an operation may receive in a state and what state follows.
`Path` is the resulting labelled small-step relation on pairs of a remaining program and a
state; every prefix of a run is a path, so a property of all paths holds at every point of every
run, finished or not. `Ensures` computes, by recursion on the program alone, that each operation
is issued legally and that each result satisfies a postcondition. The two meet in
`Ensures.along`: what is ensured at the start is ensured after any path.
-/

namespace Effects

/-- The responses an environment may give, and the state each one leads to. -/
structure Environment (P : PFunctor.{0, 0}) (σ : Type) where
  allows : σ → (op : P.A) → P.B op → Prop
  next : σ → (op : P.A) → P.B op → σ

variable {P : PFunctor.{0, 0}} {σ α β : Type} {env : Environment P σ}

/-- The environment that withholds the answers which fail a condition: its runs are the runs all
of whose steps meet the condition. -/
def Environment.restrict (env : Environment P σ) (condition : σ → (op : P.A) → P.B op → Prop) :
    Environment P σ where
  allows state op response := env.allows state op response ∧ condition state op response
  next := env.next

/-- Finite runs, labelled with the operations issued and the responses received. -/
inductive Path (env : Environment P σ) :
    Program P α → σ → List (Event P) → Program P α → σ → Prop
  | nil (program : Program P α) (state : σ) : Path env program state [] program state
  | cons {op : P.A} {resume : P.B op → Program P α} {state final : σ}
      {events : List (Event P)} {rest : Program P α} (response : P.B op) :
      env.allows state op response →
      Path env (resume response) (env.next state op response) events rest final →
      Path env (.issue op resume) state (⟨op, response⟩ :: events) rest final

namespace Path

variable {program middle rest : Program P α} {start between final : σ}
  {first second events : List (Event P)}

theorem append (left : Path env program start first middle between)
    (right : Path env middle between second rest final) :
    Path env program start (first ++ second) rest final := by
  induction left with
  | nil => exact right
  | cons response allowed _ ih => exact .cons response allowed (ih right)

/-- A run of the first program is a run of the sequence. -/
theorem bind (path : Path env program start events rest final) (next : α → Program P β) :
    Path env (program >>= next) start events (rest >>= next) final := by
  induction path with
  | nil => exact .nil _ _
  | cons response allowed _ ih => exact .cons response allowed ih

/-- Nothing happens once a program is done. -/
theorem of_done {result : α} (path : Path env (.done result) start events rest final) :
    events = [] ∧ rest = .done result ∧ final = start := by
  cases path
  exact ⟨rfl, rfl, rfl⟩

/-- A run without events has not moved. -/
theorem of_nil (path : Path env program start [] rest final) : rest = program := by
  cases path
  rfl

/-- A run of an operation and what follows either has not issued it yet or begins with it. -/
theorem of_issue {op : P.A} {resume : P.B op → Program P α}
    (path : Path env (.issue op resume) start events rest final) :
    (events = [] ∧ rest = .issue op resume ∧ final = start) ∨
      ∃ response later, events = ⟨op, response⟩ :: later ∧ env.allows start op response ∧
        Path env (resume response) (env.next start op response) later rest final := by
  cases path with
  | nil => exact .inl ⟨rfl, rfl, rfl⟩
  | cons response allowed later => exact .inr ⟨response, _, rfl, allowed, later⟩

/-- A finished run of an operation and what follows begins with it. -/
theorem of_issue_done {op : P.A} {resume : P.B op → Program P α} {result : α}
    (path : Path env (.issue op resume) start events (.done result) final) :
    ∃ response later, events = ⟨op, response⟩ :: later ∧ env.allows start op response ∧
      Path env (resume response) (env.next start op response) later (.done result) final := by
  rcases path.of_issue with ⟨_, unfinished, _⟩ | begun
  · contradiction
  · exact begun

/-- The last event of a run is its first operation, or one that comes after it. -/
theorem of_issue_concat {op : P.A} {resume : P.B op → Program P α} {last : Event P}
    (path : Path env (.issue op resume) start (events ++ [last]) rest final) :
    ∃ response, env.allows start op response ∧
      ((events = [] ∧ last = ⟨op, response⟩ ∧ rest = resume response) ∨
        ∃ later, events = ⟨op, response⟩ :: later ∧
          Path env (resume response) (env.next start op response) (later ++ [last]) rest final) := by
  rcases path.of_issue with ⟨none, -, -⟩ | ⟨response, later, split, allowed, path⟩
  · exact absurd none (List.concat_ne_nil _ _)
  · refine ⟨response, allowed, ?_⟩
    cases events with
    | nil =>
      obtain ⟨rfl, rfl⟩ := List.cons.inj split
      exact .inl ⟨rfl, rfl, path.of_nil⟩
    | cons first events =>
      obtain ⟨rfl, rfl⟩ := List.cons.inj split
      exact .inr ⟨events, rfl, path⟩

/-- A finished run of a sequence is a finished run of its first program and one of the second. -/
theorem of_bind_done {next : α → Program P β} {result : β}
    (path : Path env (program >>= next) start events (.done result) final) :
    ∃ value between first second, events = first ++ second ∧
      Path env program start first (.done value) between ∧
      Path env (next value) between second (.done result) final := by
  induction program generalizing start events with
  | done value => exact ⟨value, start, [], events, rfl, .nil _ _, path⟩
  | issue op resume ih =>
    obtain ⟨response, later, rfl, allowed, rest⟩ := path.of_issue_done
    obtain ⟨value, between, first, second, rfl, left, right⟩ := ih response rest
    exact ⟨value, between, _ :: first, second, rfl, .cons response allowed left, right⟩

/-- A run that meets a condition is a run. -/
theorem of_restrict {condition : σ → (op : P.A) → P.B op → Prop}
    (path : Path (env.restrict condition) program start events rest final) :
    Path env program start events rest final := by
  induction path with
  | nil => exact .nil _ _
  | cons response allowed _ ih => exact .cons response allowed.1 ih

/-- A run whose events all meet a condition is a run that meets it. -/
theorem restrict {condition : (op : P.A) → P.B op → Prop}
    (path : Path env program start events rest final)
    (met : ∀ event ∈ events, condition event.1 event.2) :
    Path (env.restrict fun _ => condition) program start events rest final := by
  induction path with
  | nil => exact .nil _ _
  | cons response allowed _ ih =>
    rw [List.forall_mem_cons] at met
    exact .cons response ⟨allowed, met.1⟩ (ih met.2)

/-- A run on one state is a run on another that it is a part of. -/
theorem map {τ : Type} (wide : Environment P τ) (embed : σ → τ)
    (allowed : ∀ state op response, env.allows state op response →
      wide.allows (embed state) op response)
    (stepped : ∀ state op response, wide.next (embed state) op response =
      embed (env.next state op response))
    (path : Path env program start events rest final) :
    Path wide program (embed start) events rest (embed final) := by
  induction path with
  | nil => exact .nil _ _
  | cons response granted _ ih =>
    refine .cons response (allowed _ _ _ granted) ?_
    rw [stepped]
    exact ih

end Path

/-- Some run leads from one point to another. -/
def Reaches (env : Environment P σ) (program : Program P α) (start : σ) (rest : Program P α)
    (final : σ) : Prop :=
  ∃ events, Path env program start events rest final

namespace Reaches

variable {program middle rest : Program P α} {start between final : σ}

theorem refl (program : Program P α) (state : σ) : Reaches env program state program state :=
  ⟨[], .nil _ _⟩

theorem step {op : P.A} {resume : P.B op → Program P α} (response : P.B op)
    (allowed : env.allows start op response)
    (tail : Reaches env (resume response) (env.next start op response) rest final) :
    Reaches env (.issue op resume) start rest final := by
  obtain ⟨events, path⟩ := tail
  exact ⟨_, .cons response allowed path⟩

/-- A program that is done reaches its own result only. -/
theorem done_iff {value result : α} :
    Reaches env (.done value) start (.done result) final ↔ result = value ∧ final = start := by
  constructor
  · rintro ⟨_, path⟩
    obtain ⟨-, same, stayed⟩ := path.of_done
    exact ⟨Program.done.inj same, stayed⟩
  · rintro ⟨rfl, rfl⟩
    exact refl _ _

/-- The results of an operation and what follows are those after one of its answers. -/
theorem issue_iff {op : P.A} {resume : P.B op → Program P α} {result : α} :
    Reaches env (.issue op resume) start (.done result) final ↔
      ∃ response, env.allows start op response ∧
        Reaches env (resume response) (env.next start op response) (.done result) final := by
  constructor
  · rintro ⟨_, path⟩
    obtain ⟨response, later, -, allowed, rest⟩ := path.of_issue_done
    exact ⟨response, allowed, later, rest⟩
  · rintro ⟨response, allowed, rest⟩
    exact rest.step response allowed

/-- A step that leaves the state as it is. -/
theorem stay {op : P.A} {resume : P.B op → Program P α} (response : P.B op)
    (allowed : env.allows start op response) (steady : env.next start op response = start)
    (tail : Reaches env (resume response) start rest final) :
    Reaches env (.issue op resume) start rest final := by
  apply step response allowed
  rw [steady]
  exact tail

theorem trans (left : Reaches env program start middle between)
    (right : Reaches env middle between rest final) : Reaches env program start rest final := by
  obtain ⟨_, first⟩ := left
  obtain ⟨_, second⟩ := right
  exact ⟨_, first.append second⟩

theorem bind (reaches : Reaches env program start rest final) (next : α → Program P β) :
    Reaches env (program >>= next) start (rest >>= next) final := by
  obtain ⟨events, path⟩ := reaches
  exact ⟨events, path.bind next⟩

/-- A run to a result, then a run of the continuation. -/
theorem andThen {result : α} {next : α → Program P β} {last : Program P β} {finish : σ}
    (left : Reaches env program start (.done result) between)
    (right : Reaches env (next result) between last finish) :
    Reaches env (program >>= next) start last finish :=
  (left.bind next).trans right

theorem of_restrict {condition : σ → (op : P.A) → P.B op → Prop}
    (reaches : Reaches (env.restrict condition) program start rest final) :
    Reaches env program start rest final := by
  obtain ⟨events, path⟩ := reaches
  exact ⟨events, path.of_restrict⟩

end Reaches

/-- Some run leads to a state, wherever the program then stands. -/
def Visits (env : Environment P σ) (program : Program P α) (start final : σ) : Prop :=
  ∃ rest, Reaches env program start rest final

theorem Visits.here (program : Program P α) (state : σ) : Visits env program state state :=
  ⟨program, .refl _ _⟩

theorem Visits.step {op : P.A} {resume : P.B op → Program P α} {start final : σ}
    (response : P.B op) (allowed : env.allows start op response)
    (tail : Visits env (resume response) (env.next start op response) final) :
    Visits env (.issue op resume) start final := by
  obtain ⟨rest, reaches⟩ := tail
  exact ⟨rest, reaches.step response allowed⟩

namespace Program

variable {legal : σ → P.A → Prop}

/-- Every operation issued from `state` on is legal, and every result satisfies `post`. -/
def Ensures (env : Environment P σ) (legal : σ → P.A → Prop) :
    Program P α → σ → (α → σ → Prop) → Prop
  | done result, state, post => post result state
  | issue op resume, state, post => legal state op ∧ ∀ response, env.allows state op response →
      (resume response).Ensures env legal (env.next state op response) post

/-- The precondition of a sequence is the first program's precondition for the second's. -/
theorem ensures_bind (program : Program P α) (next : α → Program P β) (state : σ)
    (post : β → σ → Prop) :
    (program >>= next).Ensures env legal state post ↔
      program.Ensures env legal state fun result between =>
        (next result).Ensures env legal between post := by
  induction program generalizing state with
  | done => rfl
  | issue op resume ih =>
    exact and_congr_right fun _ => forall_congr' fun response => imp_congr_right fun _ => ih response _

theorem Ensures.mono {program : Program P α} {state : σ} {post wider : α → σ → Prop}
    (ensured : program.Ensures env legal state post)
    (implied : ∀ result final, post result final → wider result final) :
    program.Ensures env legal state wider := by
  induction program generalizing state with
  | done result => exact implied result state ensured
  | issue op resume ih =>
    exact ⟨ensured.1, fun response allowed => ih response (ensured.2 response allowed)⟩

/-- Sequencing rule. -/
theorem Ensures.bind {program : Program P α} {next : α → Program P β} {state : σ}
    {middle : α → σ → Prop} {post : β → σ → Prop}
    (ensured : program.Ensures env legal state middle)
    (rest : ∀ result between, middle result between →
      (next result).Ensures env legal between post) :
    (program >>= next).Ensures env legal state post :=
  (ensures_bind program next state post).mpr (ensured.mono rest)

/-- A weaker condition on the operations. -/
theorem Ensures.of_legal {program : Program P α} {state : σ} {other : σ → P.A → Prop}
    {post : α → σ → Prop} (ensured : program.Ensures env other state post)
    (implied : ∀ state op, other state op → legal state op) :
    program.Ensures env legal state post := by
  induction program generalizing state with
  | done => exact ensured
  | issue op resume ih =>
    exact ⟨implied _ _ ensured.1, fun response allowed => ih response (ensured.2 response allowed)⟩

/-- What is ensured is ensured of the runs that meet a condition. -/
theorem Ensures.restrict {program : Program P α} {state : σ} {post : α → σ → Prop}
    (ensured : program.Ensures env legal state post) (condition : σ → (op : P.A) → P.B op → Prop) :
    program.Ensures (env.restrict condition) legal state post := by
  induction program generalizing state with
  | done => exact ensured
  | issue op resume ih =>
    exact ⟨ensured.1, fun response allowed => ih response (ensured.2 response allowed.1)⟩

/-- What is ensured of the results in one way holds beside what is ensured in another. -/
theorem Ensures.and {program : Program P α} {state : σ} {other : σ → P.A → Prop}
    {post further : α → σ → Prop} (first : program.Ensures env other state post)
    (second : program.Ensures env legal state further) :
    program.Ensures env legal state fun result final => post result final ∧ further result final := by
  induction program generalizing state with
  | done => exact ⟨first, second⟩
  | issue op resume ih =>
    refine ⟨second.1, fun response allowed => ?_⟩
    exact ih response (first.2 response allowed) (second.2 response allowed)

/-- What is ensured where only a part of the state is looked at is ensured of that part. -/
theorem Ensures.of_view {τ : Type} (wide : Environment P τ) (view : τ → σ) (state : τ)
    (allowed : ∀ state op response, wide.allows state op response →
      env.allows (view state) op response)
    (stepped : ∀ state op response, wide.allows state op response →
      view (wide.next state op response) = env.next (view state) op response)
    {program : Program P α} {post : α → σ → Prop}
    (ensured : program.Ensures env legal (view state) post) :
    program.Ensures wide (fun state op => legal (view state) op) state
      fun result final => post result (view final) := by
  induction program generalizing state with
  | done => exact ensured
  | issue op resume ih =>
    refine ⟨ensured.1, fun response granted => ih response _ ?_⟩
    rw [stepped _ _ _ granted]
    exact ensured.2 response (allowed state op response granted)

/-- What is ensured in one environment is ensured in another, whose states stand for those of the
first: each operation of the program is answered as there, and leads to states that still do. -/
theorem Ensures.of_related {τ : Type} {other : Environment P τ} {stands : σ → τ → Prop}
    {ops : P.A → Prop} {results : α → Prop} {program : Program P α} {state : σ} {low : τ}
    {post : α → σ → Prop} (ensured : program.Ensures env legal state post)
    (confined : program.Confined ops results)
    (step : ∀ state low op response, ops op → stands state low → legal state op →
      other.allows low op response →
        env.allows state op response ∧ stands (env.next state op response) (other.next low op response))
    (related : stands state low) :
    program.Ensures other (fun low op => ops op ∧ ∃ reached, stands reached low) low
      fun result final => ∃ reached, stands reached final ∧ post result reached := by
  induction program generalizing state low with
  | done => exact ⟨state, related, ensured⟩
  | issue op resume ih =>
    refine ⟨⟨confined.1, state, related⟩, fun response granted => ?_⟩
    obtain ⟨allowed, still⟩ := step state low op response confined.1 related ensured.1 granted
    exact ih response (ensured.2 response allowed) (confined.2 response) still

/-- A property of the state that every operation of a confined program keeps holds at its end,
and makes its operations legal where they rely on it. -/
theorem Confined.keeps {program : Program P α} {ops : P.A → Prop} {results : α → Prop}
    {property : σ → Prop} {state : σ} (confined : program.Confined ops results)
    (allLegal : ∀ state op, ops op → property state → legal state op)
    (kept : ∀ state op response, ops op → property state → env.allows state op response →
      property (env.next state op response)) (initially : property state) :
    program.Ensures env legal state fun result final => results result ∧ property final := by
  induction program generalizing state with
  | done result => exact ⟨confined, initially⟩
  | issue op resume ih =>
    refine ⟨allLegal state op confined.1 initially, fun response allowed => ?_⟩
    exact ih response (confined.2 response) (kept _ _ _ confined.1 initially allowed)

/-- A program confined to operations that are legal everywhere ensures its results. -/
theorem Confined.ensures_everywhere {program : Program P α} {ops : P.A → Prop}
    {results : α → Prop} {state : σ} (confined : program.Confined ops results)
    (allLegal : ∀ state op, ops op → legal state op) :
    program.Ensures env legal state fun result _ => results result := by
  have kept : program.Ensures env legal state fun result _ => results result ∧ True :=
    confined.keeps (fun state op issued _ => allLegal state op issued)
      (fun _ _ _ _ _ _ => trivial) trivial
  exact kept.mono fun _ _ ended => ended.1

/-- Operations of a kind are legal in a state, and leave it as it is. -/
structure Passes (env : Environment P σ) (legal : σ → P.A → Prop) (ops : P.A → Prop)
    (state : σ) : Prop where
  issues : ∀ op, ops op → legal state op
  steady : ∀ op response, ops op → env.allows state op response → env.next state op response = state

/-- A program confined to operations that pass in a state ensures its results, in that state. -/
theorem Confined.ensures {program : Program P α} {ops : P.A → Prop} {results : α → Prop}
    {state : σ} (confined : program.Confined ops results) (passes : Passes env legal ops state) :
    program.Ensures env legal state fun result final => results result ∧ final = state := by
  refine confined.keeps ?_ ?_ rfl
  · rintro _ op issued rfl
    exact passes.issues op issued
  · rintro _ op response issued rfl allowed
    exact passes.steady op response issued allowed

/-- The same, before a continuation. -/
theorem Confined.ensures_bind {program : Program P α} {next : α → Program P β} {ops : P.A → Prop}
    {results : α → Prop} {state : σ} {post : β → σ → Prop}
    (confined : program.Confined ops results) (passes : Passes env legal ops state)
    (rest : ∀ result, results result → (next result).Ensures env legal state post) :
    (program >>= next).Ensures env legal state post := by
  apply (confined.ensures passes).bind
  rintro result _ ⟨produced, rfl⟩
  exact rest result produced

/-- A program all of whose operations are answered runs to an end. -/
theorem Confined.finishes {program : Program P α} {ops : P.A → Prop} {results : α → Prop}
    (confined : program.Confined ops results)
    (answered : ∀ state op, ops op → ∃ response, env.allows state op response) (start : σ) :
    ∃ result final, Reaches env program start (.done result) final := by
  induction program generalizing start with
  | done result => exact ⟨result, start, .refl _ _⟩
  | issue op resume ih =>
    obtain ⟨response, allowed⟩ := answered start op confined.1
    obtain ⟨result, final, reaches⟩ := ih response (confined.2 response) (env.next start op response)
    exact ⟨result, final, reaches.step response allowed⟩

/-- A program all of whose operations are answered in a state without changing it runs to an end
in that state. -/
theorem Confined.returns {program : Program P α} {ops : P.A → Prop} {results : α → Prop}
    (confined : program.Confined ops results) {state : σ}
    (answered : ∀ op, ops op → ∃ response, env.allows state op response ∧
      env.next state op response = state) :
    ∃ result, results result ∧ Reaches env program state (.done result) state := by
  induction program with
  | done result => exact ⟨result, confined, .refl _ _⟩
  | issue op resume ih =>
    obtain ⟨response, allowed, steady⟩ := answered op confined.1
    obtain ⟨result, produced, reaches⟩ := ih response (confined.2 response)
    exact ⟨result, produced, reaches.stay response allowed steady⟩

/-- What is ensured at the start of a run is ensured at every later point of it. -/
theorem Ensures.along {program rest : Program P α} {start final : σ} {events : List (Event P)}
    {post : α → σ → Prop} (ensured : program.Ensures env legal start post)
    (path : Path env program start events rest final) :
    rest.Ensures env legal final post := by
  induction path with
  | nil => exact ensured
  | cons response allowed _ ih => exact ih (ensured.2 response allowed)

/-- No run reaches an illegal operation. -/
theorem Ensures.legal_of_path {program rest : Program P α} {start final : σ}
    {events : List (Event P)} {post : α → σ → Prop} {op : P.A}
    (ensured : program.Ensures env legal start post)
    (path : Path env program start events rest final) (issued : rest.head? = some op) :
    legal final op := by
  have later := ensured.along path
  cases rest with
  | done => exact absurd issued (by simp [head?])
  | issue head resume =>
    obtain rfl : head = op := by simpa [head?] using issued
    exact later.1

/-- Where no result is asked for, a program ensures exactly that its runs are legal. -/
theorem ensures_iff_legal (program : Program P α) (state : σ) :
    program.Ensures env legal state (fun _ _ => True) ↔
      ∀ events rest final op, Path env program state events rest final →
        rest.head? = some op → legal final op := by
  constructor
  · intro ensured events rest final op path issued
    exact ensured.legal_of_path path issued
  · intro legalAlong
    induction program generalizing state with
    | done => trivial
    | issue op resume ih =>
      refine ⟨legalAlong [] _ state op (.nil _ _) rfl, fun response allowed => ih response _ ?_⟩
      intro events rest final op path issued
      exact legalAlong _ rest final op (.cons response allowed path) issued

/-- A finished run satisfies the postcondition. -/
theorem Ensures.post_of_path {program : Program P α} {start final : σ}
    {events : List (Event P)} {post : α → σ → Prop} {result : α}
    (ensured : program.Ensures env legal start post)
    (path : Path env program start events (.done result) final) : post result final :=
  ensured.along path

/-- A state property that is ensured wherever the program stops holds where it stands. -/
theorem Ensures.now {program : Program P α} {state : σ} {property : σ → Prop}
    (ensured : program.Ensures env (fun state _ => property state) state
      fun _ final => property final) : property state := by
  cases program with
  | done => exact ensured
  | issue => exact ensured.1

/-- Operations and results of a confined program stay confined along any run. -/
theorem Confined.along {program rest : Program P α} {start final : σ} {events : List (Event P)}
    {ops : P.A → Prop} {results : α → Prop} (confined : program.Confined ops results)
    (path : Path env program start events rest final) :
    rest.Confined ops results ∧ ∀ event ∈ events, ops event.1 := by
  induction path with
  | nil => exact ⟨confined, by simp⟩
  | cons response _ _ ih =>
    obtain ⟨later, issued⟩ := ih (confined.2 response)
    exact ⟨later, by simpa using ⟨confined.1, issued⟩⟩

end Program

/-- Follow at most `steps` operations with chosen answers, recording them; stops early at an
unanswered one. -/
def drive (env : Environment P σ) (answer : σ → (op : P.A) → Option (P.B op)) :
    ℕ → Program P α → σ → List (Event P) × Program P α × σ
  | 0, program, state => ([], program, state)
  | _ + 1, .done result, state => ([], .done result, state)
  | steps + 1, .issue op resume, state =>
    match answer state op with
    | none => ([], .issue op resume, state)
    | some response =>
      let later := drive env answer steps (resume response) (env.next state op response)
      (⟨op, response⟩ :: later.1, later.2)

/-- Driving a program with allowed answers is one of its runs. -/
theorem drive_path (env : Environment P σ) (answer : σ → (op : P.A) → Option (P.B op))
    (allowed : ∀ state op response, answer state op = some response → env.allows state op response)
    (steps : ℕ) (program : Program P α) (start : σ) :
    Path env program start (drive env answer steps program start).1
      (drive env answer steps program start).2.1 (drive env answer steps program start).2.2 := by
  induction steps generalizing program start with
  | zero => exact .nil _ _
  | succ steps ih =>
    cases program with
    | done result => exact .nil _ _
    | issue op resume =>
      cases answered : answer start op with
      | none =>
        simp only [drive, answered]
        exact .nil _ _
      | some response =>
        simp only [drive, answered]
        exact .cons response (allowed _ _ _ answered) (ih _ _)

/-- A program that stops asking when driven has run to a result. -/
theorem drive_path_done {env : Environment P σ} {answer : σ → (op : P.A) → Option (P.B op)}
    (allowed : ∀ state op response, answer state op = some response → env.allows state op response)
    {steps : ℕ} {program : Program P α} {start : σ}
    (finished : (drive env answer steps program start).2.1.head? = none) :
    ∃ result, Path env program start (drive env answer steps program start).1 (.done result)
      (drive env answer steps program start).2.2 := by
  obtain ⟨result, done⟩ := Program.done_of_head? finished
  refine ⟨result, ?_⟩
  rw [← done]
  exact drive_path env answer allowed steps program start

/-- A program runs to where it is driven. -/
theorem reaches_driven {answer : σ → (op : P.A) → Option (P.B op)}
    (allowed : ∀ state op response, answer state op = some response → env.allows state op response)
    (steps : ℕ) (program : Program P α) (start : σ) :
    Reaches env program start (drive env answer steps program start).2.1
      (drive env answer steps program start).2.2 :=
  ⟨_, drive_path env answer allowed steps program start⟩

/-- A program that is done when driven runs to its result. -/
theorem reaches_drive {answer : σ → (op : P.A) → Option (P.B op)}
    (allowed : ∀ state op response, answer state op = some response → env.allows state op response)
    {program : Program P α} {start : σ} (steps : ℕ) (result : α)
    (finished : (drive env answer steps program start).2.1.result? = some result) :
    Reaches env program start (.done result) (drive env answer steps program start).2.2 := by
  rw [← Program.done_of_result? finished]
  exact reaches_driven allowed steps program start

end Effects
