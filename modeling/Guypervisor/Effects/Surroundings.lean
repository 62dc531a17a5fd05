import Guypervisor.Effects.Environment

/-! # Runs amid surroundings that change the state too

What a program works on may change between its steps by hands that are not its own. Each answer then
comes with the state the surroundings left behind, so that a run records what they did, and every
rule about runs, schedules and what is ensured holds of these runs as well. The program does not look
at that state: what it ensures in a view that the surroundings leave alone, it ensures amid them.
-/

namespace Effects

/-- An interface in which each answer comes with the state the surroundings left behind. -/
abbrev Amid (P : PFunctor.{0, 0}) (σ : Type) : PFunctor.{0, 0} := ⟨P.A, fun op => P.B op × σ⟩

variable {P : PFunctor.{0, 0}} {σ τ α : Type} {env : Environment P σ} {others : σ → σ → Prop}

/-- The environment in which after each step the surroundings change the state in a given way. -/
def Environment.amid (env : Environment P σ) (others : σ → σ → Prop) :
    Environment (Amid P σ) σ where
  allows state op answer :=
    env.allows state op answer.1 ∧ others (env.next state op answer.1) answer.2
  next _ _ answer := answer.2

/-- A view of the program's own, in which the surroundings do nothing. -/
def Environment.unaware (env : Environment P τ) : Environment (Amid P σ) τ where
  allows state op answer := env.allows state op answer.1
  next state op answer := env.next state op answer.1

/-- What the program has to do with an event. -/
def Event.own (event : Event (Amid P σ)) : Event P := ⟨event.1, event.2.1⟩

namespace Program

/-- A program amid surroundings. -/
def amid : Program P α → Program (Amid P σ) α
  | done result => done result
  | issue op resume => @issue (Amid P σ) α op fun answer => (resume answer.1).amid

/-- It is about to issue the same operation. -/
theorem head?_amid (program : Program P α) : (program.amid (σ := σ)).head? = program.head? := by
  cases program <;> rfl

/-- What a program ensures it ensures in a view of its own. -/
theorem Ensures.unaware {env : Environment P τ} {program : Program P α} {legal : τ → P.A → Prop}
    {state : τ} {post : α → τ → Prop} (ensured : program.Ensures env legal state post) :
    (program.amid (σ := σ)).Ensures env.unaware legal state post := by
  induction program generalizing state with
  | done => exact ensured
  | issue op resume ih =>
    exact ⟨ensured.1, fun answer allowed => ih answer.1 (ensured.2 answer.1 allowed)⟩

/-- What a program ensures in a view that the surroundings leave alone it ensures amid them. -/
theorem Ensures.amid {seen : Environment P τ} {program : Program P α} {legal : τ → P.A → Prop}
    {state : σ} {post : α → τ → Prop} (env : Environment P σ) (view : σ → τ)
    (ensured : program.Ensures seen legal (view state) post)
    (allowed : ∀ state op response, env.allows state op response →
      seen.allows (view state) op response)
    (stepped : ∀ state op response, view (env.next state op response) =
      seen.next (view state) op response)
    (alone : ∀ before after, others before after → view after = view before) :
    (program.amid (σ := σ)).Ensures (env.amid others) (fun state op => legal (view state) op) state
      fun result final => post result (view final) := by
  apply ensured.unaware.of_view (env.amid others) view
  · exact fun state op answer granted => allowed state op answer.1 granted.1
  · intro state op answer granted
    exact (alone _ _ granted.2).trans (stepped state op answer.1)

end Program

/-- A run in which the surroundings do nothing. -/
theorem Path.amid (idle : ∀ state, others state state) {program rest : Program P α} {start final : σ}
    {events : List (Event P)} (path : Path env program start events rest final) :
    ∃ later, later.map Event.own = events ∧
      Path (env.amid others) program.amid start later rest.amid final := by
  induction path with
  | nil => exact ⟨[], rfl, .nil _ _⟩
  | @cons op resume state _ _ _ response allowed _ ih =>
    obtain ⟨later, same, path⟩ := ih
    refine ⟨⟨op, response, env.next state op response⟩ :: later, congrArg _ same, ?_⟩
    exact @Path.cons (Amid P σ) _ _ _ _ _ _ _ _ _ (response, _) ⟨allowed, idle _⟩ path

end Effects
